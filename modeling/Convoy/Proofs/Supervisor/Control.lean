import Convoy.Proofs.Health
import Convoy.Proofs.Routing
import Convoy.Supervisor.Run
import Mathlib.Data.List.Nodup

/-!
# What the control loop does about a report

`Applied` lists the ways in which the control loop goes on after a report, and `Finished` those after
the launch of a restart. What monitors do on their own is left out of account: `Agrees` relates two
controls that watch the same instances in the same health.
-/

namespace Convoy

/-- Nothing is done but writing to the log. -/
def Logs (effects : List Effect) : Prop := ∀ effect ∈ effects, ∃ line, effect = .line line

namespace Logs

theorem nil : Logs [] := by simp [Logs]

theorem cons (line : LogLine) {effects : List Effect} (logs : Logs effects) :
    Logs (.line line :: effects) :=
  List.forall_mem_cons.2 ⟨⟨line, rfl⟩, logs⟩

end Logs

namespace Board

variable (board : Board) (slot : Slot)

@[simp]
theorem running_unroute : (board.unroute slot).running = board.running := rfl

@[simp]
theorem launches_unroute : (board.unroute slot).launches = board.launches := rfl

theorem contains_route (other : Slot) :
    (board.route slot).routing.contains other = true ↔
      other = slot ∨ board.routing.contains other = true :=
  Routing.contains_insert _ _ _

theorem contains_unroute (other : Slot) :
    (board.unroute slot).routing.contains other = true ↔
      other ≠ slot ∧ board.routing.contains other = true :=
  Routing.contains_erase _ _ _

theorem map_slot_replace :
    (board.replace slot).running.map (·.slot) = board.running.map (·.slot) := by
  rw [replace, List.map_map]
  apply List.map_congr_left
  intro live member
  dsimp only [Function.comp_apply]
  split
  · rename_i same
    exact same.symm
  · rfl

/-- Gives a slot traffic or takes it away, if an action says so. -/
def rerouted (slot : Slot) (board : Board) : HealthAction → Board
  | .addToRouting => board.route slot
  | .removeFromRouting => board.unroute slot
  | _ => board

/-- What some actions do to the routing of a slot. -/
def reroute (actions : List HealthAction) : Board := actions.foldl (rerouted slot) board

@[simp]
theorem reroute_cons (action : HealthAction) (rest : List HealthAction) :
    board.reroute slot (action :: rest) = (rerouted slot board action).reroute slot rest := rfl

variable {board slot}

theorem reroute_keeps (actions : List HealthAction) :
    (board.reroute slot actions).running = board.running ∧
      (board.reroute slot actions).launches = board.launches := by
  induction actions generalizing board with
  | nil => exact ⟨rfl, rfl⟩
  | cons action rest induction =>
    have rerouted : (Board.rerouted slot board action).running = board.running ∧
        (Board.rerouted slot board action).launches = board.launches := by
      cases action <;> exact ⟨rfl, rfl⟩
    exact ⟨induction.1.trans rerouted.1, induction.2.trans rerouted.2⟩

@[simp]
theorem running_reroute (actions : List HealthAction) :
    (board.reroute slot actions).running = board.running :=
  (reroute_keeps actions).1

@[simp]
theorem launches_reroute (actions : List HealthAction) :
    (board.reroute slot actions).launches = board.launches :=
  (reroute_keeps actions).2

theorem contains_rerouted (action : HealthAction) (other : Slot) :
    (rerouted slot board action).routing.contains other =
      if other = slot then action.routes (board.routing.contains slot)
      else board.routing.contains other := by
  rw [Bool.eq_iff_iff]
  cases action with
  | addToRouting =>
    refine (contains_route _ _ _).trans ?_
    by_cases same : other = slot <;> simp [same, HealthAction.routes]
  | removeFromRouting =>
    refine (contains_unroute _ _ _).trans ?_
    by_cases same : other = slot <;> simp [same, HealthAction.routes]
  | _ => by_cases same : other = slot <;> simp [same, rerouted, HealthAction.routes]

/-- The actions decide about the traffic of their own slot and of no other one. -/
theorem contains_reroute (actions : List HealthAction) (other : Slot) :
    (board.reroute slot actions).routing.contains other =
      if other = slot then actions.foldl HealthAction.routes (board.routing.contains slot)
      else board.routing.contains other := by
  induction actions generalizing board with
  | nil =>
    by_cases same : other = slot
    · simp [reroute, same]
    · simp [reroute, same]
  | cons action rest induction =>
    rw [reroute_cons, induction, contains_rerouted, contains_rerouted]
    by_cases same : other = slot
    · simp [same]
    · simp [same]

/-- Only slots of a list get traffic. -/
structure Routed (board : Board) (slots : List Slot) : Prop where
  tidy : board.routing.Tidy
  within : ∀ slot, board.routing.contains slot = true → slot ∈ slots

namespace Routed

variable {slots : List Slot}

theorem of_empty (empty : board.routing = .empty) (slots : List Slot) : board.Routed slots := by
  constructor
  · rw [empty]
    exact Routing.Tidy.empty
  · intro slot contained
    rw [empty] at contained
    cases contained

theorem subset (routed : board.Routed slots) {others : List Slot} (within : slots ⊆ others) :
    board.Routed others :=
  ⟨routed.tidy, fun slot contained => within (routed.within slot contained)⟩

theorem route (routed : board.Routed slots) {slot : Slot} (member : slot ∈ slots) :
    (board.route slot).Routed slots := by
  refine ⟨routed.tidy.insert slot, ?_⟩
  intro other contained
  rcases (contains_route _ _ _).1 contained with rfl | former
  · exact member
  · exact routed.within other former

theorem unroute (routed : board.Routed slots) (slot : Slot) :
    (board.unroute slot).Routed slots := by
  refine ⟨routed.tidy.erase slot, ?_⟩
  intro other contained
  exact routed.within other ((contains_unroute _ _ _).1 contained).2

theorem unroute_head {slot : Slot} (routed : board.Routed (slot :: slots)) :
    (board.unroute slot).Routed slots := by
  refine ⟨routed.tidy.erase slot, ?_⟩
  intro other contained
  rcases (contains_unroute _ _ _).1 contained with ⟨different, former⟩
  exact (List.mem_cons.1 (routed.within other former)).resolve_left different

theorem reroute (routed : board.Routed slots) {slot : Slot} (member : slot ∈ slots)
    (actions : List HealthAction) : (board.reroute slot actions).Routed slots := by
  induction actions generalizing board with
  | nil => exact routed
  | cons action rest induction =>
    rw [reroute_cons]
    apply induction
    cases action with
    | addToRouting => exact routed.route member
    | removeFromRouting => exact routed.unroute slot
    | _ => exact routed

theorem foldl_route (routed : board.Routed slots) (served : List Watched)
    (known : ∀ watched ∈ served, watched.slot ∈ slots) :
    (served.foldl (fun board found => board.route found.slot) board).Routed slots := by
  induction served generalizing board with
  | nil => exact routed
  | cons watched rest induction =>
    rcases List.forall_mem_cons.1 known with ⟨first, later⟩
    exact induction (routed.route first) later

end Routed

end Board

/-! ## Watched instances -/

namespace Watched

variable (watched : Watched)

variable {watched} in
theorem slot_eq_of_unmonitored {other : Watched}
    (same : watched.unmonitored = other.unmonitored) : watched.slot = other.slot := by
  have slots := congrArg Watched.slot same
  exact slots

variable {watched} in
/-- What is known about an instance apart from its monitors. -/
theorem known_of_unmonitored {other : Watched} (same : watched.unmonitored = other.unmonitored) :
    watched.current = other.current ∧ watched.generation = other.generation ∧
      watched.health = other.health := by
  have current := congrArg Watched.current same
  have generation := congrArg Watched.generation same
  have health := congrArg Watched.health same
  exact ⟨current, generation, health⟩

/-- A slot whose instance has been replaced by the one with a number. -/
def renewed (watched : Watched) (id : InstanceId) : Watched :=
  { watched with
    id := id
    generation := watched.generation + 1
    health := watched.health.restarted }

end Watched

namespace Control

variable {control : Control}

theorem find?_slot {slot : Slot} {watched : Watched} (found : control.find? slot = some watched) :
    watched ∈ control.watched ∧ watched.slot = slot :=
  ⟨List.mem_of_find?_eq_some found, by simpa using List.find?_some found⟩

theorem exists_find? {watched : Watched} (member : watched ∈ control.watched) :
    ∃ other, control.find? watched.slot = some other := by
  rw [← Option.isSome_iff_exists, find?, List.find?_isSome]
  exact ⟨watched, member, by simp⟩

/-- Instances of other slots stay as they are. -/
theorem mem_put {watched other : Watched} (member : other ∈ (control.put watched).watched) :
    other = watched ∨ other ∈ control.watched ∧ other.slot ≠ watched.slot := by
  rcases List.mem_map.1 member with ⟨former, formerMember, rfl⟩
  split
  · exact Or.inl rfl
  · rename_i different
    exact Or.inr ⟨formerMember, different⟩

/-- A look-up after a replacement, in a control that has the slot. -/
theorem find?_put {watched former : Watched} (found : control.find? watched.slot = some former)
    (slot : Slot) :
    (control.put watched).find? slot =
      if slot = watched.slot then some watched else control.find? slot := by
  -- The replacement keeps the slots, so that the same entry is found as before.
  have test : (fun other : Watched => decide (other.slot = slot)) ∘
      (fun other => if other.slot = watched.slot then watched else other) =
        fun other => decide (other.slot = slot) := by
    funext other
    by_cases own : other.slot = watched.slot <;> simp [own]
  have mapped : (control.put watched).find? slot = (control.find? slot).map
      fun other => if other.slot = watched.slot then watched else other := by
    rw [find?, put, List.find?_map, test, find?]
  rw [mapped]
  by_cases own : slot = watched.slot
  · rw [own, found, if_pos rfl, Option.map_some, if_pos (find?_slot found).2]
  · rw [if_neg own]
    cases sought : control.find? slot with
    | none => rfl
    | some other =>
      rw [Option.map_some, if_neg]
      rw [(find?_slot sought).2]
      exact own

theorem put_put (control : Control) {first second : Watched} (same : first.slot = second.slot) :
    (control.put first).put second = control.put second := by
  unfold put
  simp only [List.map_map, Control.mk.injEq, and_true]
  refine List.map_congr_left fun other _ => ?_
  by_cases equal : other.slot = second.slot <;> simp [equal, same]

/-- Both watch the same instances, which are in the same health. -/
def Agrees (control other : Control) : Prop :=
  other.watched.map Watched.unmonitored = control.watched.map Watched.unmonitored

theorem Agrees.trans {first second third : Control} (agrees : Agrees first second)
    (further : Agrees second third) : Agrees first third :=
  Eq.trans further agrees

/-- What does not depend on monitors carries over. -/
theorem Agrees.exists_mem {other : Control} (agrees : control.Agrees other) {watched : Watched}
    (member : watched ∈ other.watched) :
    ∃ former ∈ control.watched, former.unmonitored = watched.unmonitored := by
  have mapped := List.mem_map_of_mem (f := Watched.unmonitored) member
  rw [agrees] at mapped
  exact List.mem_map.1 mapped

theorem Agrees.find? {other : Control} (agrees : control.Agrees other) (slot : Slot) :
    (other.find? slot).map Watched.unmonitored = (control.find? slot).map Watched.unmonitored := by
  have mapped : ∀ control : Control, (control.find? slot).map Watched.unmonitored =
      (control.watched.map Watched.unmonitored).find? (·.slot = slot) := by
    intro control
    rw [List.find?_map]
    rfl
  rw [mapped, mapped, agrees]

theorem Agrees.map_current {other : Control} (agrees : control.Agrees other) :
    other.watched.map Watched.current = control.watched.map Watched.current := by
  have composed : Watched.current = Watched.current ∘ Watched.unmonitored := rfl
  rw [composed, ← List.map_map, ← List.map_map, agrees]

/-- Replacing what is known about a slot by something that differs only in its monitors. -/
theorem agrees_put {watched former : Watched}
    (distinct : (control.watched.map (·.slot)).Nodup)
    (found : control.find? watched.slot = some former)
    (same : watched.unmonitored = former.unmonitored) : control.Agrees (control.put watched) := by
  unfold Agrees put
  rw [List.map_map]
  refine List.map_congr_left fun other member => ?_
  dsimp only [Function.comp_apply]
  split
  · rename_i equal
    have foundMember := find?_slot found
    rw [same, List.inj_on_of_nodup_map distinct foundMember.1 member
      (foundMember.2.trans equal.symm)]
  · rfl

end Control

/-- The control loop watches exactly the live instances, in their order. -/
structure Aligned (control : Control) (board : Board) : Prop where
  currents : control.watched.map Watched.current = board.running
  distinct : (board.running.map (·.slot)).Nodup

namespace Aligned

variable {control : Control} {board : Board}

theorem map_slot (aligned : Aligned control board) :
    control.watched.map (·.slot) = board.running.map (·.slot) := by
  rw [← aligned.currents, List.map_map]
  rfl

theorem watched_distinct (aligned : Aligned control board) :
    (control.watched.map (·.slot)).Nodup := by
  rw [aligned.map_slot]
  exact aligned.distinct

theorem current_mem (aligned : Aligned control board) {watched : Watched}
    (member : watched ∈ control.watched) : watched.current ∈ board.running := by
  rw [← aligned.currents]
  exact List.mem_map_of_mem member

theorem find?_eq (aligned : Aligned control board) {watched : Watched}
    (member : watched ∈ control.watched) : control.find? watched.slot = some watched := by
  rcases Control.exists_find? member with ⟨other, found⟩
  have otherMember := Control.find?_slot found
  rw [found, List.inj_on_of_nodup_map aligned.watched_distinct otherMember.1 member otherMember.2]

theorem agrees (aligned : Aligned control board) {other : Control}
    (agrees : control.Agrees other) : Aligned other board :=
  ⟨agrees.map_current.trans aligned.currents, aligned.distinct⟩

theorem board_eq (aligned : Aligned control board) {other : Board}
    (same : other.running = board.running) : Aligned control other := by
  constructor
  · rw [same]
    exact aligned.currents
  · rw [same]
    exact aligned.distinct

theorem put (aligned : Aligned control board) (watched : Watched) {former : Watched}
    (found : control.find? watched.slot = some former) (same : watched.current = former.current) :
    Aligned (control.put watched) board := by
  refine ⟨?_, aligned.distinct⟩
  rw [← aligned.currents, Control.put, List.map_map]
  refine List.map_congr_left fun other member => ?_
  dsimp only [Function.comp_apply]
  split
  · rename_i equal
    have foundMember := Control.find?_slot found
    rw [same, List.inj_on_of_nodup_map aligned.watched_distinct foundMember.1 member
      (foundMember.2.trans equal.symm)]
  · rfl

theorem replace (aligned : Aligned control board) (watched : Watched)
    (current : watched.current = board.nextInstance watched.slot) :
    Aligned (control.put watched) (board.replace watched.slot) := by
  constructor
  · rw [Board.replace, ← aligned.currents, Control.put, List.map_map, List.map_map]
    refine List.map_congr_left fun other member => ?_
    dsimp only [Function.comp_apply]
    by_cases equal : other.slot = watched.slot
    · rw [if_pos equal, if_pos (show other.current.slot = watched.slot from equal), current]
    · rw [if_neg equal, if_neg (show ¬other.current.slot = watched.slot from equal)]
  · rw [Board.map_slot_replace]
    exact aligned.distinct

end Aligned

namespace Supervisor

variable {supervisor : Supervisor} {control : Control} {board : Board} {now : Duration}

/-! ## Monitors -/

@[simp]
theorem unmonitored_nextDue (report : Report) (watched : Watched) :
    (supervisor.nextDue now report watched).unmonitored = watched.unmonitored := by
  unfold nextDue
  cases report.finding <;> rfl

@[simp]
theorem slot_nextDue (report : Report) (watched : Watched) :
    (supervisor.nextDue now report watched).slot = watched.slot :=
  Watched.slot_eq_of_unmonitored (unmonitored_nextDue report watched)

/-- A monitor that posts what it has found changes only what is known about monitors. -/
theorem agrees_post {watched : Watched}
    (distinct : (control.watched.map (·.slot)).Nodup)
    (found : control.find? watched.slot = some watched) (finding : Finding) :
    control.Agrees (supervisor.post now control watched finding) := by
  have keeps : ∀ waiting : Watched, waiting.unmonitored = watched.unmonitored →
      ∀ mailbox, control.Agrees (Control.put { control with mailbox := mailbox } waiting) := by
    intro waiting same mailbox
    have slot : waiting.slot = watched.slot := Watched.slot_eq_of_unmonitored same
    have agrees : control.Agrees (control.put waiting) := by
      apply Control.agrees_put distinct _ same
      rw [slot]
      exact found
    exact agrees
  unfold post
  dsimp only
  apply keeps
  split
  · rw [unmonitored_nextDue]
    cases finding <;> rfl
  · cases finding <;> rfl

/-- What monitors do leaves the watched instances and their health as they are. -/
theorem agrees_monitorStep?
    (distinct : (control.watched.map (·.slot)).Nodup)
    {happening : Happening} {next : Control}
    (seen : supervisor.monitorStep? now control happening = some next) :
    control.Agrees next := by
  unfold monitorStep? at seen
  split at seen
  · rcases Option.bind_eq_some_iff.1 seen with ⟨watched, found, seen⟩
    rcases Option.bind_eq_some_iff.1 seen with ⟨due, -, seen⟩
    split at seen
    · cases seen
      apply agrees_post distinct
      rw [(Control.find?_slot found).2]
      exact found
    · cases seen
  · rcases Option.bind_eq_some_iff.1 seen with ⟨watched, found, seen⟩
    have self : control.find? watched.slot = some watched := by
      rw [(Control.find?_slot found).2]
      exact found
    split at seen
    · split at seen
      · cases seen
        exact agrees_post distinct self _
      · cases seen
        exact Control.agrees_put distinct self rfl
    · cases seen
  · cases seen

/-- Taking a report out of the mailbox changes only what is known about monitors. -/
theorem agrees_take?
    (distinct : (control.watched.map (·.slot)).Nodup)
    {report : Report} {left : Control}
    (taken : supervisor.take? now control = some (report, left)) : control.Agrees left := by
  unfold take? at taken
  split at taken
  · cases taken
  · cases taken
    rfl
  · rename_i first rest next blocked _ _
    cases taken
    split
    · rename_i watched found
      have self : control.find? watched.slot = some watched := by
        rw [(Control.find?_slot found).2]
        exact found
      have agrees : control.Agrees (control.put (supervisor.nextDue now next watched)) := by
        apply Control.agrees_put distinct _ (unmonitored_nextDue next watched)
        rw [slot_nextDue]
        exact self
      exact agrees
    · rfl

/-! ## Reports -/

/-- Actions that replace nothing change the routing; what comes after them goes on from there. -/
theorem perform_append (supervisor : Supervisor) (control : Control) (watched : Watched)
    (board : Board) {front : List HealthAction}
    (quiet : ∀ action ∈ front, action.repairs = false) (rest : List HealthAction) :
    ∃ lines, Logs lines ∧
      supervisor.perform control watched board (front ++ rest) =
        (supervisor.perform control watched (board.reroute watched.slot front) rest).after lines := by
  induction front generalizing board with
  | nil => exact ⟨[], Logs.nil, rfl⟩
  | cons action front induction =>
    have harmless := quiet action List.mem_cons_self
    have later := fun other member => quiet other (List.mem_cons_of_mem action member)
    rcases induction (Board.rerouted watched.slot board action) later with ⟨lines, logs, equal⟩
    have logged : ∀ line : LogLine,
        supervisor.perform control watched board (action :: (front ++ rest)) =
          (supervisor.perform control watched (Board.rerouted watched.slot board action)
            (front ++ rest)).after [.line line] →
        ∃ lines, Logs lines ∧
          supervisor.perform control watched board (action :: (front ++ rest)) =
            (supervisor.perform control watched
              (board.reroute watched.slot (action :: front)) rest).after lines := by
      intro line step
      refine ⟨.line line :: lines, logs.cons line, ?_⟩
      rw [step, equal]
      rfl
    cases action with
    | started => exact logged _ rfl
    | addToRouting => exact logged _ rfl
    | removeFromRouting => exact logged _ rfl
    | startupFailed => cases harmless
    | restart => cases harmless

/-- An action that replaces the instance begins a restart. -/
theorem perform_repairs (supervisor : Supervisor) (control : Control) (watched : Watched)
    (board : Board) {action : HealthAction} (repairs : action.repairs = true) :
    ∃ lines, Logs lines ∧
      supervisor.perform control watched board [action] =
        (supervisor.beginRepair control board watched []).after lines := by
  cases action with
  | startupFailed => exact ⟨_, Logs.nil.cons _, rfl⟩
  | restart => exact ⟨[], Logs.nil, rfl⟩
  | started => cases repairs
  | addToRouting => cases repairs
  | removeFromRouting => cases repairs

/-- A finding because of which a watched instance has to be replaced, and the health that is noted
before. -/
inductive Condemns (watched : Watched) : Finding → Health → Prop where
  | probe {kind : ProbeKind} {success : Bool}
      (repairing : Health.Repairing (watched.health.observe kind success)) :
      Condemns watched (.probe kind success) (watched.health.observe kind success).1
  | exited {code : Option Int} : Condemns watched (.exited code) watched.health

theorem Condemns.restarts_eq {watched : Watched} {finding : Finding} {health : Health}
    (condemns : Condemns watched finding health) : health.restarts = watched.health.restarts := by
  cases condemns with
  | probe repairing => exact Health.restarts_observe _ _
  | exited => rfl

theorem Condemns.thresholds_eq {watched : Watched} {finding : Finding} {health : Health}
    (condemns : Condemns watched finding health) :
    health.thresholds = watched.health.thresholds := by
  cases condemns with
  | probe repairing => exact Health.thresholds_observe _ _
  | exited => rfl

/-- How the control loop goes on after a report, and what it does. -/
inductive Applied (supervisor : Supervisor) (control : Control) (board : Board) (report : Report) :
    Loop → List Effect → Prop where
  /-- The report is not about an instance that is watched. -/
  | stale
      (old : ∀ watched, control.find? report.slot = some watched →
        watched.generation ≠ report.generation) :
      Applied supervisor control board report ⟨control, board, .done⟩ []
  /-- The report replaces nothing. -/
  | quiet {watched : Watched} {kind : ProbeKind} {success : Bool} {effects : List Effect}
      (found : control.find? report.slot = some watched)
      (current : watched.generation = report.generation)
      (finding : report.finding = .probe kind success)
      (quiet : Health.Quiet (watched.health.observe kind success)) (logs : Logs effects) :
      Applied supervisor control board report
        ⟨control.put { watched with health := (watched.health.observe kind success).1 },
          board.reroute watched.slot (watched.health.observe kind success).2, .done⟩ effects
  /-- The instance would have to be replaced, but it has no restarts left. -/
  | exhausted {watched : Watched} {after : Control} {actions : List HealthAction}
      {effects : List Effect}
      (found : control.find? report.slot = some watched)
      (current : watched.generation = report.generation)
      (spent : supervisor.options.maxRestarts ≤ watched.health.restarts) (logs : Logs effects)
      {health : Health} (condemned : Condemns watched report.finding health) :
      Applied supervisor control board report
        ⟨after, board.reroute watched.slot actions,
          .broken (SupervisorError.restartBudgetExhausted watched.slot.service
            watched.health.restarts : Failure)⟩ effects
  /-- The instance is replaced; its monitors have been called off. -/
  | repair {watched : Watched} {health : Health} {mailbox : Mailbox}
      {actions : List HealthAction} {effects : List Effect}
      (found : control.find? report.slot = some watched)
      (current : watched.generation = report.generation)
      (same : health.restarts = watched.health.restarts)
      (left : watched.health.restarts < supervisor.options.maxRestarts) (logs : Logs effects)
      (condemned : Condemns watched report.finding health)
      (withdrawn : mailbox = control.mailbox.withdraw watched.slot) :
      Applied supervisor control board report
        ⟨Control.put { control with mailbox := mailbox }
            (Watched.unmonitored { watched with health := health }),
          (board.reroute watched.slot actions).unroute watched.slot,
          .repairing ⟨watched.current, .stopping, []⟩⟩
        (effects ++ [.request (.stop watched.current)])

/-- The end of acting on a report that replaces an instance. -/
theorem Applied.of_repairing
    {report : Report} {watched : Watched} (found : control.find? report.slot = some watched)
    (current : watched.generation = report.generation)
    {health : Health} (condemned : Condemns watched report.finding health) {after : Control}
    (unsent : after.mailbox = control.mailbox)
    (noted : ∀ mailbox, Control.put { after with mailbox := mailbox }
        (Watched.unmonitored { watched with health := health }) =
      Control.put { control with mailbox := mailbox }
        (Watched.unmonitored { watched with health := health }))
    {front : List HealthAction} (quiet : ∀ action ∈ front, action.repairs = false)
    {last : HealthAction} (repairs : last.repairs = true) (line : LogLine) :
    Applied supervisor control board report
      (supervisor.perform after { watched with health := health } board (front ++ [last])).next
      (.line line ::
        (supervisor.perform after { watched with health := health } board
          (front ++ [last])).effects) := by
  have same := condemned.restarts_eq
  rcases perform_append supervisor after { watched with health := health } board quiet [last] with
    ⟨lines, logs, equal⟩
  rcases perform_repairs supervisor after { watched with health := health }
    (board.reroute watched.slot front) repairs with ⟨further, moreLogs, same'⟩
  have written : Logs (.line line :: (lines ++ further)) := by
    apply Logs.cons
    intro effect member
    exact (List.mem_append.1 member).elim (logs effect) (moreLogs effect)
  have together : ∀ rest, Effect.line line :: (lines ++ (further ++ rest)) =
      .line line :: (lines ++ further) ++ rest := by simp
  rw [equal, same']
  unfold beginRepair
  split
  · rename_i spent
    dsimp only at spent
    rw [same] at spent
    have applied : Applied supervisor control board report
        ⟨after, board.reroute watched.slot front,
          .broken (SupervisorError.restartBudgetExhausted watched.slot.service
            watched.health.restarts : Failure)⟩
        (.line line :: (lines ++ (further ++ []))) := by
      rw [together, List.append_nil]
      exact .exhausted found current spent written condemned
    rw [← same] at applied
    exact applied
  · rename_i left
    dsimp only at left
    rw [same] at left
    have applied : Applied supervisor control board report
        ⟨Control.put { control with mailbox := after.mailbox.withdraw watched.slot }
            (Watched.unmonitored { watched with health := health }),
          (board.reroute watched.slot front).unroute watched.slot,
          .repairing ⟨watched.current, .stopping, []⟩⟩
        (.line line :: (lines ++ (further ++ [.request (.stop watched.current)]))) := by
      rw [together]
      exact .repair found current same (Nat.lt_of_not_le left) written condemned
        (congrArg (·.withdraw watched.slot) unsent)
    rw [← noted] at applied
    exact applied

/-- What the control loop does about a report on instances that start or run. -/
theorem Applied.of_apply
    (report : Report)
    (active : ∀ watched ∈ control.watched, watched.health.lifecycle.isActive = true) :
    Applied supervisor control board report (supervisor.apply control board report).next
      (supervisor.apply control board report).effects := by
  unfold apply
  split
  · rename_i none
    apply Applied.stale
    intro watched found
    rw [none] at found
    cases found
  · rename_i watched found
    split
    · rename_i old
      apply Applied.stale
      intro other otherFound
      rw [found] at otherFound
      cases otherFound
      exact old
    · rename_i current
      have current := Decidable.not_not.1 current
      have member := Control.find?_slot found
      split
      · rename_i kind success finding
        rcases Health.observe_cases (active watched member.1) kind success with
          quiet | ⟨front, last, actions, repairs, quiet⟩
        · rcases perform_append supervisor
            (control.put { watched with health := (watched.health.observe kind success).1 })
            { watched with health := (watched.health.observe kind success).1 } board quiet.2 []
            with ⟨lines, logs, equal⟩
          rw [List.append_nil] at equal
          dsimp only
          rw [equal]
          have written : ∀ line, Logs (.line line :: (lines ++ [])) := by
            intro line
            rw [List.append_nil]
            exact logs.cons line
          exact .quiet found current finding quiet (written _)
        · dsimp only
          have condemned : Condemns watched report.finding
              (watched.health.observe kind success).1 := by
            rw [finding]
            exact .probe ⟨front, last, actions, repairs, quiet⟩
          rw [actions]
          apply Applied.of_repairing found current condemned _ _ quiet repairs
          · rfl
          · intro mailbox
            exact Control.put_put { control with mailbox := mailbox } rfl
      · rename_i code finding
        have front : ∀ actions : List HealthAction, (∀ action ∈ actions, action.repairs = false) →
            Applied supervisor control board report
              (supervisor.perform control watched board (actions ++ [.restart])).next
              (.line (.warn (watched.slot.text ++ " exited unexpectedly (status " ++
                statusText code ++ ")")) ::
                (supervisor.perform control watched board (actions ++ [.restart])).effects) := by
          intro actions quiet
          have condemned : Condemns watched report.finding watched.health := by
            rw [finding]
            exact .exited
          exact Applied.of_repairing found current condemned rfl (fun _ => rfl) quiet rfl _
        dsimp only
        split
        · exact front [.removeFromRouting] (by simp [HealthAction.repairs])
        · exact front [] (by simp)

/-- A restart begins with the stop of the old instance. -/
theorem Applied.stage_eq {report : Report} {progress : Loop} {effects : List Effect}
    {repair : Repair} (applied : Applied supervisor control board report progress effects)
    (repairing : progress.progress = .repairing repair) : repair.stage = .stopping := by
  cases applied with
  | repair found current same left logs =>
    cases repairing
    rfl
  | _ => cases repairing

/-! ## Restarts -/

/-- The board after a slot got a new instance, which serves at once or not. -/
def renewedBoard (board : Board) (slot : Slot) (serving : Bool) : Board :=
  if serving then (board.replace slot).route slot else board.replace slot

@[simp]
theorem running_renewedBoard (slot : Slot) (serving : Bool) :
    (renewedBoard board slot serving).running = (board.replace slot).running := by
  cases serving <;> rfl

@[simp]
theorem launches_renewedBoard (slot : Slot) (serving : Bool) :
    (renewedBoard board slot serving).launches = board.launches + 1 := by
  cases serving <;> rfl

/-- How the control loop goes on after the launch of a restart has ended, and what it does. -/
inductive Finished (supervisor : Supervisor) (now : Duration) (control : Control) (board : Board)
    (slot : Slot) : Option Failure → Loop → List Effect → Prop where
  | failed {failure : Failure} :
      Finished supervisor now control board slot (some failure)
        ⟨control, board, .broken (failure.within ("Failed to restart " ++ slot.text))⟩ []
  | renewed {old : Watched} {line : LogLine} (found : control.find? slot = some old) :
      Finished supervisor now control board slot none
        ⟨control.put ((old.renewed board.launches).monitored (supervisor.probesOf slot) now),
          renewedBoard board slot old.health.restarted.serving, .done⟩
        [.line line, .event slot.service (.restarted slot.index (old.health.restarts + 1)),
          .request (.awaitExit (board.nextInstance slot))]

/-- What the control loop does after the launch for a slot that is watched, if nothing remains to
be done after the restart. -/
theorem Finished.of_finishRepair
    {repair : Repair} {old : Watched} (found : control.find? repair.old.slot = some old)
    (last : repair.rest = []) (failure : Option Failure) :
    Finished supervisor now control board repair.old.slot failure
      (supervisor.finishRepair now control board repair failure).next
      (supervisor.finishRepair now control board repair failure).effects := by
  cases failure with
  | some reason => exact .failed
  | none =>
    unfold finishRepair
    simp only [found, last]
    exact .renewed found

end Supervisor

end Convoy
