import Convoy.Edge
import Convoy.Proofs.Address
import Mathlib.Data.List.Basic

/-!
# Files below their roots

A request path under the mark of a kind of files is a list of segments. Those that are empty or a
single dot do not count, a double dot anywhere refuses the request, and the others name a file below
the root: different names are different files.
-/

namespace Convoy

namespace Text

variable {separator : Char} {text : List Char}

theorem splitChars_eq_splitOn (separator : Char) (text : List Char) :
    splitChars separator text = text.splitOn separator := by
  induction text with
  | nil => rfl
  | cons character rest induction =>
    rw [splitChars, induction, List.splitOn_cons_eq_if_modifyHead]
    split
    · rfl
    · cases parts : rest.splitOn separator with
      | nil => exact absurd parts (List.splitOn_ne_nil separator rest)
      | cons part parts => rfl

/-- A part holds no separator, and only characters of the text. -/
theorem of_mem_splitOn {part : List Char} (member : part ∈ text.splitOn separator) :
    separator ∉ part ∧ part ⊆ text := by
  induction text generalizing part with
  | nil =>
    obtain rfl := List.mem_singleton.1 (List.splitOn_nil separator ▸ member)
    simp
  | cons character rest induction =>
    rw [List.splitOn_cons_eq_if_modifyHead] at member
    split at member
    · rcases List.mem_cons.1 member with rfl | later
      · simp
      · exact (induction later).imp_right (List.subset_cons_of_subset character)
    · rename_i different
      cases parts : rest.splitOn separator with
      | nil => exact absurd parts (List.splitOn_ne_nil separator rest)
      | cons first others =>
        rw [parts] at induction member
        rcases List.mem_cons.1 member with rfl | later
        · obtain ⟨absent, held⟩ := induction List.mem_cons_self
          have apart : separator ≠ character := fun same => different (by simp [same])
          exact ⟨List.not_mem_cons_of_ne_of_not_mem apart absent,
            List.cons_subset_cons character held⟩
        · exact (induction (List.mem_cons_of_mem first later)).imp_right
            (List.subset_cons_of_subset character)

/-- Parts that stand behind separators are found again. -/
theorem splitOn_append_flatMap
    (before : List Char) {parts : List (List Char)}
    (absent : separator ∉ before) (free : ∀ part ∈ parts, separator ∉ part) :
    (before ++ parts.flatMap (separator :: ·)).splitOn separator = before :: parts := by
  induction parts generalizing before with
  | nil => simpa using List.splitOn_eq_singleton absent
  | cons part later induction =>
    obtain ⟨now, others⟩ := List.forall_mem_cons.1 free
    rw [List.flatMap_cons, List.cons_append, List.splitOn_append_cons_self_of_not_mem absent,
      induction part now others]

theorem stripStart?_eq_some_iff {start text rest : List Char} :
    stripStart? start text = some rest ↔ text = start ++ rest := by
  induction start generalizing text with
  | nil => simp [stripStart?, eq_comm]
  | cons expected more induction =>
    cases text with
    | nil => simp [stripStart?]
    | cons character later =>
      by_cases same : expected = character
      · simp [stripStart?, same, induction]
      · simp [stripStart?, same, Ne.symm same]

/-- What is dropped at the end of a text is a number of copies of one character. -/
theorem exists_dropEndWhile_append (last : Char) (text : List Char) :
    ∃ count, text = dropEndWhile (· == last) text ++ List.replicate count last := by
  refine ⟨(text.rtakeWhile (· == last)).length, ?_⟩
  rw [← List.eq_replicate_of_mem fun character member => by
    simpa using List.mem_rtakeWhile_imp member]
  exact (List.rdropWhile_append_rtakeWhile).symm

end Text

/-- A kind of files that a proxy sends by itself. -/
inductive FileKind where
  | asset
  | upload

namespace FileKind

/-- What the path of a request for a file begins with. -/
def mark : FileKind → List Char
  | asset => "/static/".toList
  | upload => "/media/".toList

/-- Where the files are. -/
def root (settings : EdgeSettings) : FileKind → String
  | asset => settings.staticRoot
  | upload => settings.mediaRoot

/-- The route to a file. -/
def routeTo : FileKind → String → Route
  | asset => .staticFile
  | upload => .mediaFile

theorem routeTo_injective (kind : FileKind) : Function.Injective kind.routeTo := by
  intro first second same
  cases kind <;> cases same <;> rfl

theorem routeTo_ne_rejected (kind : FileKind) (file : String) : kind.routeTo file ≠ .rejected := by
  cases kind <;> exact Route.noConfusion

end FileKind

/-- A segment that names an entry of a directory and is written without a query. -/
structure IsFileName (segment : List Char) : Prop where
  nonempty : segment ≠ []
  notSelf : segment ≠ ['.']
  notParent : segment ≠ ['.', '.']
  plain : ∀ character ∈ segment, character ≠ '/' ∧ character ≠ '?' ∧ character ≠ '#'

/-- A file is reached from a root, written without slashes at its end, by names of entries. -/
def IsBelow (root file : List Char) : Prop :=
  ∃ (stem : List Char) (count : Nat) (names : List (List Char)),
    root = stem ++ List.replicate count '/' ∧ stem.getLast? ≠ some '/' ∧
      (∀ name ∈ names, IsFileName name) ∧ file = stem ++ names.flatMap ('/' :: ·)

/-- The segments of a path but for empty ones and single dots. -/
def namesIn (path : List Char) : List (List Char) :=
  (path.splitOn '/').filter fun segment => segment ≠ [] ∧ segment ≠ ['.']

namespace EdgeSettings

variable {settings : EdgeSettings} {kind : FileKind} {request : String}
  {root path rest : List Char}

/-! ## Paths before their query -/

theorem plain_of_mem_barePath {character : Char} (member : character ∈ barePath path) :
    character ≠ '?' ∧ character ≠ '#' := by
  simpa using List.mem_takeWhile_imp member

/-- What follows a query belongs to it. -/
theorem barePath_append (first second : List Char) :
    barePath (first ++ second) =
      barePath first ++ if barePath first = first then barePath second else [] := by
  have cut : barePath first <+: first := List.takeWhile_prefix _
  have whole_iff : (barePath first).length = first.length ↔ barePath first = first :=
    ⟨cut.eq_of_length, congrArg _⟩
  rw [barePath, List.takeWhile_append]
  change (if (barePath first).length = first.length then first ++ barePath second
    else barePath first) = _
  rw [if_congr whole_iff rfl rfl]
  split
  · rename_i whole
    rw [whole]
  · exact (List.append_nil _).symm

theorem barePath_append_query {start : Char} (starts : start = '?' ∨ start = '#')
    (path more : List Char) : barePath (path ++ start :: more) = barePath path := by
  have nothing : barePath (start :: more) = [] := by
    rcases starts with rfl | rfl <;> rfl
  rw [barePath_append, nothing, ite_self, List.append_nil]

theorem barePath_mark_append (kind : FileKind) (rest : List Char) :
    barePath (kind.mark ++ rest) = kind.mark ++ barePath rest := by
  have whole : barePath kind.mark = kind.mark := by
    cases kind <;> rfl
  rw [barePath_append, whole, if_pos rfl]

/-! ## Segments -/

theorem segments_eq (path : List Char) : segments path = namesIn path := by
  rw [segments, namesIn, Text.splitChars_eq_splitOn]
  refine List.filter_congr fun segment _ => ?_
  rw [Bool.eq_iff_iff]
  simp

theorem namesIn_append (first second : List Char) :
    namesIn (first ++ '/' :: second) = namesIn first ++ namesIn second := by
  rw [namesIn, List.splitOn_append_cons_self, List.filter_append]
  rfl

theorem slash_notMem_of_mem {name : List Char} (member : name ∈ namesIn path) : '/' ∉ name :=
  (Text.of_mem_splitOn (List.mem_of_mem_filter member)).1

theorem dots_mem_namesIn_iff : ['.', '.'] ∈ namesIn path ↔ ['.', '.'] ∈ path.splitOn '/' := by
  simp [namesIn]

theorem isFileName_of_mem
    (unclimbing : ['.', '.'] ∉ namesIn path)
    (plain : ∀ character ∈ path, character ≠ '?' ∧ character ≠ '#')
    {name : List Char} (member : name ∈ namesIn path) : IsFileName name := by
  obtain ⟨listed, counts⟩ := List.mem_filter.1 member
  obtain ⟨nonempty, notSelf⟩ := of_decide_eq_true counts
  obtain ⟨absent, held⟩ := Text.of_mem_splitOn listed
  constructor
  case nonempty => exact nonempty
  case notSelf => exact notSelf
  case notParent =>
    rintro rfl
    exact unclimbing member
  case plain =>
    intro character inside
    exact ⟨ne_of_mem_of_not_mem inside absent, plain character (held inside)⟩

/-- The names in a list of segments are those of its first segment and then of the others, unless
the query begins in the first one. -/
theorem namesIn_intercalate_cons (segment : List Char) (others : List (List Char)) :
    namesIn (barePath (['/'].intercalate (segment :: others))) =
      namesIn (barePath segment) ++
        if barePath segment = segment then namesIn (barePath (['/'].intercalate others))
        else [] := by
  cases others with
  | nil =>
    rw [List.intercalate_singleton, List.intercalate_nil]
    exact (List.append_nil _).symm.trans (congrArg _ (ite_self _).symm)
  | cons next later =>
    rw [List.intercalate_cons_cons, List.append_assoc, barePath_append]
    split
    · rename_i whole
      exact namesIn_append _ _
    · rw [List.append_nil, List.append_nil]

/-- Empty segments and single dots can be put in anywhere. -/
theorem namesIn_intercalate_insert {idle : List Char} (idles : idle = [] ∨ idle = ['.'])
    (before after : List (List Char)) :
    namesIn (barePath (['/'].intercalate (before ++ idle :: after))) =
      namesIn (barePath (['/'].intercalate (before ++ after))) := by
  induction before with
  | nil =>
    have whole : barePath idle = idle := by
      rcases idles with rfl | rfl <;> rfl
    have nothing : namesIn idle = [] := by
      rcases idles with rfl | rfl <;> rfl
    rw [List.nil_append, namesIn_intercalate_cons, whole, nothing, if_pos rfl]
    rfl
  | cons segment later induction =>
    rw [List.cons_append, List.cons_append, namesIn_intercalate_cons, namesIn_intercalate_cons,
      induction]

/-! ## Routes to files -/

theorem joinUnder_eq (root path : List Char) :
    joinUnder root path =
      if ['.', '.'] ∈ namesIn path then none
      else some (Text.dropEndWhile (· == '/') root ++ (namesIn path).flatMap ('/' :: ·)) := by
  unfold joinUnder
  rw [segments_eq, if_congr List.contains_iff_mem rfl rfl]

/-- A request under the mark of a kind goes to a file of this kind, if to any. -/
theorem route_of_barePath (marked : barePath request.toList = kind.mark ++ rest) :
    settings.route request =
      if ['.', '.'] ∈ namesIn rest then .rejected
      else kind.routeTo (String.ofList (Text.dropEndWhile (· == '/') (kind.root settings).toList ++
        (namesIn rest).flatMap ('/' :: ·))) := by
  have joined : settings.route request =
      (joinUnder (kind.root settings).toList rest).elim .rejected
        (kind.routeTo <| String.ofList ·) := by
    unfold route
    rw [marked]
    cases kind with
    | asset => cases settings.metrics <;> rfl
    | upload => cases settings.metrics <;> rfl
  rw [joined, joinUnder_eq]
  split <;> rfl

/-- Only requests under the mark of a kind go to a file of this kind. -/
theorem exists_barePath_of_route {file : String}
    (routed : settings.route request = kind.routeTo file) :
    ∃ rest, barePath request.toList = kind.mark ++ rest := by
  simp only [route] at routed
  split at routed
  · cases kind <;> cases routed
  split at routed
  · cases kind <;> cases routed
  split at routed
  · rename_i rest found
    cases kind with
    | asset => exact ⟨rest, Text.stripStart?_eq_some_iff.1 found⟩
    | upload =>
      cases joined : joinUnder settings.staticRoot.toList rest <;> rw [joined] at routed <;>
        cases routed
  split at routed
  · rename_i rest found
    cases kind with
    | asset =>
      cases joined : joinUnder settings.mediaRoot.toList rest <;> rw [joined] at routed <;>
        cases routed
    | upload => exact ⟨rest, Text.stripStart?_eq_some_iff.1 found⟩
  · cases kind <;> cases routed

theorem route_congr {other : String} (same : barePath request.toList = barePath other.toList) :
    settings.route request = settings.route other := by
  unfold route
  rw [same]

/-- Requests for files do not leave the roots of the files. -/
structure Confines (settings : EdgeSettings) : Prop where
  /-- A file is below the root of its kind. -/
  below : ∀ kind request file, settings.route request = FileKind.routeTo kind file →
    IsBelow (kind.root settings).toList file.toList
  /-- Under the mark of a kind, a request is refused exactly if one of its segments climbs up. -/
  rejected_iff : ∀ (kind : FileKind) (request : String) rest,
    barePath request.toList = kind.mark ++ rest →
      (settings.route request = .rejected ↔ ['.', '.'] ∈ rest.splitOn '/')
  /-- A query changes nothing. -/
  query : ∀ request more : String, ∀ start ∈ ['?', '#'],
    settings.route (request ++ String.ofList [start] ++ more) = settings.route request
  /-- One more empty segment or single dot changes nothing, wherever it is put in. -/
  idle : ∀ (kind : FileKind) (before after : List (List Char)), ∀ segment ∈ [[], ['.']],
    settings.route (String.ofList
        (kind.mark ++ ['/'].intercalate (before ++ segment :: after))) =
      settings.route (String.ofList (kind.mark ++ ['/'].intercalate (before ++ after)))
  /-- Requests of one kind go to one file exactly if they name the same entries in order. -/
  file_eq_iff : ∀ (kind : FileKind) (first second : String) firstRest secondRest,
    barePath first.toList = kind.mark ++ firstRest →
      barePath second.toList = kind.mark ++ secondRest →
        settings.route first ≠ .rejected → settings.route second ≠ .rejected →
          ∃ firstFile secondFile,
            settings.route first = kind.routeTo firstFile ∧
              settings.route second = kind.routeTo secondFile ∧
              (firstFile = secondFile ↔ namesIn firstRest = namesIn secondRest)

/-- Files have the same path below a root exactly if they have the same names. -/
theorem joined_eq_iff (root first second : List Char) :
    root ++ (namesIn first).flatMap ('/' :: ·) = root ++ (namesIn second).flatMap ('/' :: ·) ↔
      namesIn first = namesIn second := by
  constructor
  · intro same
    have split := congrArg (List.splitOn '/') (List.append_cancel_left same)
    have parts : ∀ path, ((namesIn path).flatMap ('/' :: ·)).splitOn '/' = [] :: namesIn path :=
      fun path => Text.splitOn_append_flatMap [] List.not_mem_nil fun _ => slash_notMem_of_mem
    rw [parts, parts] at split
    exact (List.cons.inj split).2
  · intro same
    rw [same]

theorem isBelow_of_barePath
    (marked : barePath path = kind.mark ++ rest) (unclimbing : ['.', '.'] ∉ namesIn rest)
    (root : List Char) :
    IsBelow root (Text.dropEndWhile (· == '/') root ++ (namesIn rest).flatMap ('/' :: ·)) := by
  obtain ⟨count, whole⟩ := Text.exists_dropEndWhile_append '/' root
  have plain : ∀ character ∈ rest, character ≠ '?' ∧ character ≠ '#' := by
    intro character member
    have inside : character ∈ barePath path := marked ▸ List.mem_append_right _ member
    exact plain_of_mem_barePath inside
  refine ⟨_, count, namesIn rest, whole, ?_, fun name => isFileName_of_mem unclimbing plain, rfl⟩
  exact Text.dropEndWhile_beq_eq_self_iff.1 (Text.dropEndWhile_dropEndWhile _ root)

/-- A file is named by segments that cannot climb, whatever is requested, and each way to write the
same names is the same request. -/
theorem files_confined (settings : EdgeSettings) : settings.Confines := by
  constructor
  case below =>
    intro kind request file routed
    obtain ⟨rest, marked⟩ := exists_barePath_of_route routed
    rw [route_of_barePath marked] at routed
    split at routed
    · exact absurd routed.symm (kind.routeTo_ne_rejected file)
    · rename_i unclimbing
      rw [← kind.routeTo_injective routed, String.toList_ofList]
      exact isBelow_of_barePath marked unclimbing _
  case rejected_iff =>
    intro kind request rest marked
    rw [route_of_barePath marked, ← dots_mem_namesIn_iff]
    split
    · rename_i climbs
      exact iff_of_true rfl climbs
    · rename_i unclimbing
      exact iff_of_false (kind.routeTo_ne_rejected _) unclimbing
  case query =>
    intro request more start starts
    apply route_congr
    have starts : start = '?' ∨ start = '#' := by simpa using starts
    have cut := barePath_append_query starts request.toList more.toList
    simpa using cut
  case idle =>
    intro kind before after segment idles
    have idles : segment = [] ∨ segment = ['.'] := by simpa using idles
    have marked : ∀ segments, barePath (String.ofList
        (kind.mark ++ ['/'].intercalate segments)).toList =
          kind.mark ++ barePath (['/'].intercalate segments) := fun segments => by
      rw [String.toList_ofList, barePath_mark_append]
    rw [route_of_barePath (marked _), route_of_barePath (marked _),
      namesIn_intercalate_insert idles]
  case file_eq_iff =>
    intro kind first second firstRest secondRest firstMarked secondMarked firstGoes secondGoes
    rw [route_of_barePath firstMarked] at firstGoes ⊢
    rw [route_of_barePath secondMarked] at secondGoes ⊢
    split at firstGoes
    · exact absurd rfl firstGoes
    split at secondGoes
    · exact absurd rfl secondGoes
    rename_i firstUnclimbing secondUnclimbing
    rw [if_neg firstUnclimbing, if_neg secondUnclimbing]
    refine ⟨_, _, rfl, rfl, ?_⟩
    rw [String.ofList_inj, joined_eq_iff]

example : standard.route "/static//css/./main.css?v=1" =
    .staticFile "/usr/share/nginx/html/static/css/main.css" := by
  decide +kernel

end EdgeSettings

end Convoy
