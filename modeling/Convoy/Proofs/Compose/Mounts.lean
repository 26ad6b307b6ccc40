import Convoy.Manifest.Check
import Convoy.Proofs.Compose.Document
import Convoy.Proofs.Compose.Interpolation
import Convoy.Proofs.Files

/-!
# Mounts in the short form

A document has the mounts of a service as texts, whose parts stand between colons. Reading such a
text gives the mount back exactly if neither its volume nor its path is empty or has a colon of its
own.
-/

namespace Convoy

namespace Mount

variable {text : String} {mount : Mount}

/-- A mount of some parts; none is empty. -/
def ofParts? (volume path : List Char) (readOnly : Bool) : Option Mount :=
  if volume = [] ∨ path = [] then none
  else some ⟨String.ofList volume, String.ofList path, readOnly⟩

/-- A mount from its short form: a volume and a path, and behind them the mode if it is
read-only. -/
def read? (text : String) : Option Mount :=
  match text.toList.splitOn ':' with
  | [volume, path] => ofParts? volume path false
  | [volume, path, ['r', 'o']] => ofParts? volume path true
  | _ => none

/-- The volume that a short form names, whatever stands behind its first colon. -/
def source? (text : String) : Option String :=
  match text.toList.splitOn ':' with
  | volume :: _ :: _ => if volume = [] then none else some (String.ofList volume)
  | _ => none

/-- A text that the short form keeps apart from what surrounds it. -/
structure IsPart (text : String) : Prop where
  nonempty : text ≠ ""
  whole : ':' ∉ text.toList

/-- A mount that has a short form of its own. -/
structure Legible (mount : Mount) : Prop where
  volume : IsPart mount.volume
  path : IsPart mount.path

/-- What comes behind the volume. -/
def details (mount : Mount) : List (List Char) :=
  mount.path.toList :: if mount.readOnly then [['r', 'o']] else []

theorem toList_mountText (mount : Mount) :
    (Compose.mountText mount).toList =
      mount.volume.toList ++ mount.details.flatMap (':' :: ·) := by
  unfold Compose.mountText details
  cases mount.readOnly <;> simp

theorem splitOn_mountText (legible : mount.Legible) :
    (Compose.mountText mount).toList.splitOn ':' = mount.volume.toList :: mount.details := by
  rw [toList_mountText]
  refine Text.splitOn_append_flatMap _ legible.volume.whole ?_
  unfold details
  cases mount.readOnly <;> simp [legible.path.whole]

theorem ofParts?_toList (legible : mount.Legible) :
    ofParts? mount.volume.toList mount.path.toList mount.readOnly = some mount := by
  have volume := legible.volume.nonempty
  have path := legible.path.nonempty
  simp [ofParts?, volume, path]

theorem read?_mountText (legible : mount.Legible) :
    read? (Compose.mountText mount) = some mount := by
  rw [← ofParts?_toList legible, read?, splitOn_mountText legible, details]
  cases mount.readOnly <;> rfl

theorem ofParts?_eq_some {volume path : List Char} {readOnly : Bool}
    (made : ofParts? volume path readOnly = some mount) (first : ':' ∉ volume)
    (second : ':' ∉ path) : mount.Legible := by
  unfold ofParts? at made
  split_ifs at made with empty
  cases made
  rw [not_or] at empty
  exact ⟨⟨by simpa using empty.1, by simpa using first⟩,
    ⟨by simpa using empty.2, by simpa using second⟩⟩

/-- What is read is legible, whatever the text. -/
theorem legible_of_read? (reads : read? text = some mount) : mount.Legible := by
  have whole : ∀ part ∈ text.toList.splitOn ':', ':' ∉ part :=
    fun part member => (Text.of_mem_splitOn member).1
  unfold read? at reads
  split at reads
  · rename_i volume path same
    rw [same] at whole
    exact ofParts?_eq_some reads (whole volume (by simp)) (whole path (by simp))
  · rename_i volume path same
    rw [same] at whole
    exact ofParts?_eq_some reads (whole volume (by simp)) (whole path (by simp))
  · cases reads

theorem read?_mountText_iff : read? (Compose.mountText mount) = some mount ↔ mount.Legible :=
  ⟨legible_of_read?, read?_mountText⟩

/-- What is read whole names the same volume. -/
theorem source?_of_read? (reads : read? text = some mount) : source? text = some mount.volume := by
  unfold read? ofParts? at reads
  unfold source?
  split at reads
  case h_3 => cases reads
  all_goals
    rename_i parts
    rw [parts]
    split_ifs at reads with empty
    cases reads
    exact if_neg fun none => empty (.inl none)

/-- What is named has no colon, whatever the text. -/
theorem isPart_of_source? {volume : String} (named : source? text = some volume) :
    IsPart volume := by
  unfold source? at named
  split at named
  case h_1 part next rest parts =>
    have whole : ':' ∉ part := (Text.of_mem_splitOn (parts ▸ List.mem_cons_self)).1
    split_ifs at named with empty
    cases named
    exact ⟨by simpa using empty, by simpa using whole⟩
  case h_2 => cases named

theorem exists_splitOn_mountText (part : IsPart mount.volume) :
    ∃ next rest,
      (Compose.mountText mount).toList.splitOn ':' = mount.volume.toList :: next :: rest := by
  rw [toList_mountText, details, List.flatMap_cons, List.cons_append,
    List.splitOn_append_cons_self_of_not_mem part.whole]
  simpa using List.exists_cons_of_ne_nil (List.splitOn_ne_nil ':' _)

/-- A short form names the volume of its mount exactly if this is not empty and has no colon. -/
theorem source?_mountText_iff :
    source? (Compose.mountText mount) = some mount.volume ↔ IsPart mount.volume := by
  refine ⟨isPart_of_source?, fun part => ?_⟩
  have nonempty : mount.volume.toList ≠ [] := by simpa using part.nonempty
  obtain ⟨next, rest, parts⟩ := exists_splitOn_mountText part
  rw [source?, parts]
  exact (if_neg nonempty).trans (congrArg some String.ofList_toList)

/-- A legible mount shares its short form with no other legible mount. -/
theorem mountText_inj {other : Mount} (legible : mount.Legible) (otherLegible : other.Legible) :
    Compose.mountText mount = Compose.mountText other ↔ mount = other := by
  constructor
  · intro same
    have reads := read?_mountText legible
    rw [same, read?_mountText otherLegible] at reads
    exact (Option.some.inj reads).symm
  · exact congrArg _

end Mount

namespace Compose

variable {topology : Topology} {profile : Profile} {document : Document} {service : Service}

theorem dollar_notMem_mountText {mount : Mount} (volume : '$' ∉ mount.volume.toList)
    (path : '$' ∉ mount.path.toList) : '$' ∉ (mountText mount).toList := by
  unfold mountText
  cases mount.readOnly <;> simp [volume, path]

/-- A service has an entry for each of its mounts, in order. An entry is read as its mount exactly
if the mount is legible, and it has no reference if the mount has no dollar; legible mounts of the
same entry are the same. -/
theorem mounts_read_back_iff (interpolation : Interpolation) (environment : Environment)
    (rendered : ofTopology topology profile = .ok document)
    (declared : service ∈ topology.services) :
    ∃ made, document.services.lookup service.name = some made ∧
      List.Forall₂ (fun entry mount => Mount.read? entry = some mount ↔ mount.Legible)
        made.volumes service.volumes ∧
      List.Forall₂ (fun entry mount => '$' ∉ mount.volume.toList → '$' ∉ mount.path.toList →
        interpolation.replace environment entry.toList = .literal entry.toList)
        made.volumes service.volumes ∧
      ∀ first ∈ service.volumes, ∀ second ∈ service.volumes, first.Legible → second.Legible →
        mountText first = mountText second → first = second := by
  obtain ⟨made, given, found⟩ := exists_container rendered declared
  refine ⟨made, found, ?_, ?_, ?_⟩
  · rw [(shows_of_container given).volumes, List.forall₂_map_left_iff, List.forall₂_same]
    exact fun mount _ => Mount.read?_mountText_iff
  · rw [(shows_of_container given).volumes, List.forall₂_map_left_iff, List.forall₂_same]
    intro mount _ volume path
    have plain := escapeChars_eq_self (dollar_notMem_mountText volume path)
    have replaced := interpolation.replace_escapeChars environment (mountText mount).toList
    rwa [plain] at replaced
  · exact fun first _ second _ legible otherLegible =>
      (Mount.mountText_inj legible otherLegible).1

/-- An application with mounts of one volume. -/
def storing.declared (mounts : List Mount) : ManifestService :=
  { ManifestService.ofRole "app" "app_server" "app" with volumes := mounts }

def storing (mounts : List Mount) : Manifest where
  name := "stack"
  readinessTimeoutSecs := 30
  secrets := .empty
  volumes := .ofList [("data", "files")]
  edge := .standard
  services := [storing.declared mounts]

/-- The application as it is meant. -/
def storing.app (mounts : List Mount) : Service :=
  (storing.declared mounts).toService .standard 30 .appServer

/-- Two mounts at one path. -/
def storing.twice : List Mount := [⟨"data", "/srv", true⟩, ⟨"data", "/srv", false⟩]

def storing.apart : Topology := (storing storing.twice).toTopology.toOption.get (by decide +kernel)

theorem apart_reads_back :
    ∃ document made, (storing storing.twice).toTopology = .ok storing.apart ∧
      ofTopology storing.apart .evaluation = .ok document ∧
      document.services.lookup "app" = some made ∧
      made.volumes.map Mount.read? =
        [some ⟨"data", "/srv", true⟩, some ⟨"data", "/srv", false⟩] ∧
      ∀ entry ∈ made.volumes,
        braces.replace (fun _ => some "shown") entry.toList = .literal entry.toList := by
  have described : (storing storing.twice).toTopology = .ok storing.apart := Outcome.eq_ok_get _
  obtain ⟨document, rendered⟩ : ∃ document, ofTopology storing.apart .evaluation = .ok document :=
    exists_ofTopology_iff.2 (by decide +kernel)
  have declared : storing.app storing.twice ∈ storing.apart.services := by decide +kernel
  obtain ⟨made, found, reads, plain, -⟩ :=
    mounts_read_back_iff braces (fun _ => some "shown") rendered declared
  have mounts : (storing.app storing.twice).volumes = storing.twice := rfl
  rw [mounts, storing.twice] at reads plain
  simp only [List.forall₂_cons_right_iff, List.forall₂_nil_right_iff] at reads
  obtain ⟨first, _, firstReads, ⟨second, _, secondReads, rfl, rfl⟩, entries⟩ := reads
  rw [entries] at plain
  simp only [List.forall₂_cons, List.forall₂_nil_right_iff, and_true] at plain
  have volume : Mount.IsPart "data" := ⟨by decide, by decide +kernel⟩
  have path : Mount.IsPart "/srv" := ⟨by decide, by decide +kernel⟩
  refine ⟨document, made, described, rendered, found, ?_, ?_⟩
  · rw [entries, List.map_cons, List.map_cons, firstReads.2 ⟨volume, path⟩,
      secondReads.2 ⟨volume, path⟩, List.map_nil]
  · rw [entries]
    simp only [List.forall_mem_cons, List.not_mem_nil, false_imp_iff, implies_true, and_true]
    exact ⟨plain.1 (by decide +kernel) (by decide +kernel),
      plain.2 (by decide +kernel) (by decide +kernel)⟩

/-- A mount for reading, and one of a path that looks like it. -/
def storing.alike : List Mount := [⟨"data", "/srv", true⟩, ⟨"data", "/srv:ro", false⟩]

def storing.merged : Topology := (storing storing.alike).toTopology.toOption.get (by decide +kernel)

theorem merged_shares_entry :
    ∃ document made, (storing storing.alike).toTopology = .ok storing.merged ∧
      ofTopology storing.merged .evaluation = .ok document ∧
      document.services.lookup "app" = some made ∧
      storing.app storing.alike ∈ storing.merged.services ∧
      (storing.app storing.alike).volumes =
        [⟨"data", "/srv", true⟩, ⟨"data", "/srv:ro", false⟩] ∧
      made.volumes = ["data:/srv:ro", "data:/srv:ro"] ∧
      Mount.read? "data:/srv:ro" = some ⟨"data", "/srv", true⟩ := by
  have described : (storing storing.alike).toTopology = .ok storing.merged := Outcome.eq_ok_get _
  obtain ⟨document, rendered⟩ : ∃ document, ofTopology storing.merged .evaluation = .ok document :=
    exists_ofTopology_iff.2 (by decide +kernel)
  have declared : storing.app storing.alike ∈ storing.merged.services := by decide +kernel
  obtain ⟨made, given, found⟩ := exists_container rendered declared
  refine ⟨document, made, described, rendered, found, declared, rfl, ?_, by cbv⟩
  rw [(shows_of_container given).volumes]
  decide +kernel

end Compose

end Convoy
