import Convoy.Proofs.Address
import Convoy.Proofs.Advertised
import Convoy.Proofs.Compose.Document

/-!
# Ports of the host

The settings of a proxy name no port twice, but the ports are written for every service that is a
proxy, and each of its replicas opens them. A port of the host is thus opened once exactly if there
is no second proxy and no second replica of one.
-/

namespace Convoy

open Outcome

namespace Text

theorem splitFirst?_append {separator : Char} {before : List Char} (absent : separator ∉ before)
    (after : List Char) :
    splitFirst? separator (before ++ separator :: after) = some (before, after) := by
  induction before with
  | nil => simp [splitFirst?]
  | cons character rest induction =>
    rw [List.mem_cons, not_or] at absent
    simp [splitFirst?, induction absent.2, Ne.symm absent.1]

end Text

namespace Compose

/-! ## What a document opens -/

/-- The port of the host in the short form of an entry, before the one inside the container. -/
def hostPort? (text : String) : Option UInt16 :=
  (Text.splitFirst? ':' text.toList).bind fun parts => Address.port? parts.1

/-- The ports of the host that a container opens. -/
def Container.hostPorts (container : Container) : List UInt16 :=
  container.ports.filterMap hostPort?

/-- How many containers there are for a number of replicas: a document leaves out a number that
does not say more than one. -/
def instances (replicas : Nat) : Nat := if 1 < replicas then replicas else 1

/-- How many containers of a document open a port of the host. -/
def Document.publishers (document : Document) (port : UInt16) : Nat :=
  (document.services.map fun entry =>
    if port ∈ entry.2.hostPorts then instances entry.2.replicas else 0).sum

/-- No port of the host is opened by more than one container. -/
def Document.PublishesOnce (document : Document) : Prop :=
  ∀ port, document.publishers port ≤ 1

/-- A port can be read from its entry. -/
theorem hostPort?_portText {port : UInt16} (nonzero : port ≠ 0) :
    hostPort? (portText port) = some port := by
  have digits : ':' ∉ Nat.toDigits 10 port.toNat := fun member =>
    absurd (Text.isDigit_of_mem_toDigits member) (by decide)
  have spelled : (portText port).toList =
      Nat.toDigits 10 port.toNat ++ ':' :: Nat.toDigits 10 port.toNat := by
    simp [portText, toString, Nat.repr]
  rw [hostPort?, spelled, Text.splitFirst?_append digits, Option.bind_some,
    Address.port?_toDigits, if_neg nonzero]

theorem filterMap_hostPort? {ports : List UInt16} (nonzero : ∀ port ∈ ports, port ≠ 0) :
    (ports.map portText).filterMap hostPort? = ports := by
  rw [List.filterMap_map]
  exact (List.filterMap_congr fun port member => hostPort?_portText (nonzero port member)).trans
    List.filterMap_some

/-- A list of positive numbers adds up to at most one if it is at most a single one. -/
theorem sum_map_le_one_iff {α : Type} {count : α → Nat} (items : List α)
    (positive : ∀ item, 0 < count item) :
    (items.map count).sum ≤ 1 ↔ items.length ≤ 1 ∧ ∀ item ∈ items, count item ≤ 1 := by
  match items with
  | [] => simp
  | [item] => simp
  | first :: second :: rest =>
    have one := positive first
    have other := positive second
    simp only [List.map_cons, List.sum_cons, List.length_cons]
    omega

theorem sum_map_ite {α : Type} (keep : α → Bool) (count : α → Nat) (items : List α) :
    (items.map fun item => if keep item then count item else 0).sum =
      ((items.filter keep).map count).sum := by
  induction items with
  | nil => rfl
  | cons item rest induction => cases kept : keep item <;> simp [kept, induction]

theorem instances_pos (replicas : Nat) : 0 < instances replicas := by
  unfold instances
  split <;> omega

theorem instances_le_one_iff {replicas : Nat} : instances replicas ≤ 1 ↔ replicas ≤ 1 := by
  unfold instances
  split <;> omega

/-! ## What a topology opens -/

variable {topology : Topology} {profile : Profile} {document : Document} {service : Service}

/-- The services that open ports. -/
def proxies (topology : Topology) : List Service :=
  topology.services.filter (·.role == .edgeProxy)

/-- A proxy opens the ports of its settings, another service none. -/
theorem hostPorts_of_container {made : Container}
    (given : container topology profile service = .ok made) :
    made.hostPorts = (if service.role == .edgeProxy then topology.edge.publishedPorts else []) ∧
      made.replicas = service.replicas := by
  obtain rfl := eq_of_container given
  refine ⟨?_, rfl⟩
  unfold Container.hostPorts
  dsimp only
  split
  · exact filterMap_hostPort? fun port published => topology.edge_sound.ne_zero published
  · rfl

/-- A port of the settings is opened by every container of a proxy, and another port by none. -/
theorem publishers_of_ofTopology (rendered : ofTopology topology profile = .ok document)
    (port : UInt16) :
    document.publishers port =
      if port ∈ topology.edge.publishedPorts then
        ((proxies topology).map fun proxy => instances proxy.replicas).sum
      else 0 := by
  obtain ⟨services, each, same⟩ := bind_eq_ok_iff.1 rendered
  obtain rfl := pure_eq_ok_iff.1 same
  have counts : (services.map fun entry =>
      if port ∈ entry.2.hostPorts then instances entry.2.replicas else 0) =
        topology.sequence.map fun service =>
          if service.role == .edgeProxy && topology.edge.publishedPorts.contains port then
            instances service.replicas
          else 0 := by
    refine map_eq_of_mapM_eq_ok each fun service _ entry step => ?_
    obtain ⟨made, given, same⟩ := bind_eq_ok_iff.1 step
    cases same
    obtain ⟨ports, replicas⟩ := hostPorts_of_container given
    simp only [ports, replicas]
    cases service.role == .edgeProxy <;> simp
  rw [Document.publishers, counts, (topology.sequence_perm.map _).sum_eq, sum_map_ite, proxies]
  by_cases published : port ∈ topology.edge.publishedPorts
  · simp [published]
  · simp [published]

/-- No port is opened twice exactly if there is one proxy at most, with no more than one replica. -/
theorem publishesOnce_iff (rendered : ofTopology topology profile = .ok document) :
    document.PublishesOnce ↔
      (proxies topology).length ≤ 1 ∧ ∀ proxy ∈ proxies topology, proxy.replicas ≤ 1 := by
  have single := sum_map_le_one_iff (proxies topology)
    fun proxy : Service => instances_pos proxy.replicas
  simp only [instances_le_one_iff] at single
  rw [← single]
  constructor
  · intro once
    have advertised := once topology.edge.advertised.2
    rwa [publishers_of_ofTopology rendered,
      if_pos topology.edge.advertised_mem_publishedPorts] at advertised
  · intro few port
    rw [publishers_of_ofTopology rendered]
    split
    · exact few
    · exact Nat.zero_le 1

/-- A stack with nothing but a proxy. -/
def bastion (replicas : Nat) : Blueprint where
  name := "stack"
  services :=
    [{ name := "edge"
       role := .edgeProxy
       image := "edge"
       command := []
       endpoint := none
       environment := .empty
       secrets := .empty
       dependsOn := []
       probes := .none
       volumes := []
       replicas := replicas
       readinessTimeout := .ofSeconds 30 }]
  volumes := .empty
  secrets := .empty
  edge := .standard

def bastion.lone : Topology := ⟨bastion 1, by decide +kernel⟩

theorem lone_publishes_once :
    ∃ document, ofTopology bastion.lone .evaluation = .ok document ∧ document.PublishesOnce := by
  obtain ⟨document, rendered⟩ : ∃ document, ofTopology bastion.lone .evaluation = .ok document :=
    exists_ofTopology_iff.2 (by decide +kernel)
  exact ⟨document, rendered, (publishesOnce_iff rendered).2 (by decide +kernel)⟩

/-- The proxy has a second replica. -/
def bastion.twin : Topology := ⟨bastion 2, by decide +kernel⟩

theorem twin_publishes_twice :
    ∃ document, ofTopology bastion.twin .evaluation = .ok document ∧
      document.publishers 8080 = 2 ∧ ¬ document.PublishesOnce := by
  obtain ⟨document, rendered⟩ : ∃ document, ofTopology bastion.twin .evaluation = .ok document :=
    exists_ofTopology_iff.2 (by decide +kernel)
  have twice : document.publishers 8080 = 2 := by
    rw [publishers_of_ofTopology rendered]
    decide +kernel
  exact ⟨document, rendered, twice, fun once => absurd (once 8080) (by rw [twice]; decide)⟩

end Compose

end Convoy
