import Convoy.Manifest.Check
import Convoy.Proofs.Compose.Literals
import Convoy.Proofs.Shell

/-!
# Commands of healthchecks

The text of a healthcheck goes to a shell once the runtime has replaced the references in it. The
shell asks for the address of the probe, and does nothing else, exactly if the path of the probe has
a meaning in no place for a shell.
-/

namespace Convoy.Compose

open Shell Shell.Reader

/-- What a shell runs that is given a text. No program can be given a null character. -/
def run? (text : List Char) : Option (List Command) :=
  if '\x00' ∈ text then none else commands (String.ofList text)

/-- The address that a probe asks for, up to its path. -/
def authority (port : UInt16) (scheme : Scheme) : String :=
  scheme.name ++ "://127.0.0.1:" ++ toString port.toNat

/-- The words before the address. -/
def fetchWords (scheme : Scheme) : List String :=
  ["wget", "-q", "-O", "/dev/null"] ++
    if scheme == .https then ["--no-check-certificate"] else []

/-- Words without any expansion. -/
def literals (words : List String) : List (List Piece) := words.map fun word => [.literal word]

/-- One request for the address, and a failure where it fails. -/
def probing (path : String) (port : UInt16) (scheme : Scheme) : List Command :=
  [⟨.always, literals (fetchWords scheme ++ [authority port scheme ++ path])⟩,
    ⟨.onFailure, literals ["exit", "1"]⟩]

theorem isOrdinary_of_isDigit {character : Char} (digit : character.isDigit = true) :
    isOrdinary character = true := by
  simp only [isOrdinary, isOperator, isSpecial, List.contains_cons, List.contains_nil,
    Bool.or_false, Bool.not_eq_true', Bool.or_eq_false_iff, beq_eq_false_iff_ne]
  and_intros <;> rintro rfl <;> exact absurd digit (by decide)

/-- A shell has the words before the address, and is within that of the address. -/
theorem foldlM_fetch (port : UInt16) (scheme : Scheme) :
    (fetch port scheme).toList.foldlM step start =
      .ok (inWord ((literals (fetchWords scheme)).map Token.word).reverse
        (authority port scheme).toList) := by
  have opening : ("wget -q -O /dev/null" ++
      (if scheme == .https then " --no-check-certificate" else "") ++ " " ++
      scheme.name ++ "://127.0.0.1:").toList.foldlM step start =
        .ok (inWord ((literals (fetchWords scheme)).map Token.word).reverse
          (scheme.name ++ "://127.0.0.1:").toList) := by
    cases scheme <;> decide +kernel
  have digits : ∀ character ∈ (toString port.toNat).toList, isOrdinary character = true := by
    intro character mem
    rw [Nat.toString_eq_repr, Nat.toList_repr] at mem
    exact isOrdinary_of_isDigit (Text.isDigit_of_mem_toDigits mem)
  unfold fetch authority
  simp only [String.toList_append (t := toString port.toNat)]
  rw [List.foldlM_append, opening]
  exact foldlM_of_isOrdinary digits

theorem foldlM_probing (path : String) (port : UInt16) (scheme : Scheme) :
    (fetch port scheme ++ path ++ " || exit 1").toList.foldlM step start =
      (path.toList ++ ' ' :: "|| exit 1".toList).foldlM step
        (inWord ((literals (fetchWords scheme)).map Token.word).reverse
          (authority port scheme).toList) := by
  rw [String.toList_append, String.toList_append, List.append_assoc, List.foldlM_append,
    foldlM_fetch]
  rfl

/-- What is read from a text whose path means itself. -/
theorem commands_of_verbatim {path : String} (verbatim : Verbatim path.toList) (port : UInt16)
    (scheme : Scheme) :
    commands (fetch port scheme ++ path ++ " || exit 1") = some (probing path port scheme) := by
  have reads : Shell.read (fetch port scheme ++ path ++ " || exit 1") =
      .ok (((literals (fetchWords scheme ++ [authority port scheme ++ path])).map Token.word) ++
        [.operator "||"] ++ (literals ["exit", "1"]).map Token.word) := by
    rw [Shell.read, foldlM_probing, foldlM_verbatim verbatim, ← String.toList_append]
    rw [inWord, String.ofList_toList]
    cases scheme <;> rfl
  rw [commands, reads]
  cases scheme <;> rfl

theorem verbatim_of_commands {path : String} {port : UInt16} {scheme : Scheme}
    (runs : commands (fetch port scheme ++ path ++ " || exit 1") =
      some (probing path port scheme)) :
    Verbatim path.toList := by
  obtain ⟨tokens, reads, same⟩ := words_of_commands runs
  have yields : Yields (inWord ((literals (fetchWords scheme)).map Token.word).reverse
      (authority port scheme).toList) (path.toList ++ ' ' :: "|| exit 1".toList)
      (wholeWord ((literals (fetchWords scheme)).map Token.word).reverse
        ((authority port scheme).toList ++ path.toList)) := by
    rw [Shell.read, foldlM_probing] at reads
    refine ⟨tokens, literals ["exit", "1"], reads, ?_⟩
    rw [← same, ← String.toList_append, wholeWord, String.ofList_toList]
    cases scheme <;> rfl
  -- Said with `all`, since a decision about all characters would go through every character.
  have unmarked : ("|| exit 1".toList.all fun character => !isMark character) = true := by decide
  exact verbatim_of_yields (by simpa using unmarked) yields

/-- A shell runs the probe of a healthcheck and nothing else exactly if it can be given the path and
the path means itself. -/
theorem run?_eq_some_probing_iff {path : String} {port : UInt16} {scheme : Scheme} :
    run? (fetch port scheme ++ path ++ " || exit 1").toList = some (probing path port scheme) ↔
      Verbatim path.toList ∧ '\x00' ∉ path.toList := by
  have leading : '\x00' ∉ (fetch port scheme).toList :=
    notMem_fetch (by decide) (by rintro (_ | _) <;> decide +kernel) port scheme
  have ending : '\x00' ∉ " || exit 1".toList := by decide +kernel
  have null : '\x00' ∈ (fetch port scheme ++ path ++ " || exit 1").toList ↔
      '\x00' ∈ path.toList := by
    simp only [String.toList_append, List.mem_append, leading, ending, false_or, or_false]
  simp only [run?, String.ofList_toList, null]
  constructor
  · intro runs
    split_ifs at runs with given
    exact ⟨verbatim_of_commands runs, given⟩
  · rintro ⟨verbatim, given⟩
    rw [if_neg given]
    exact commands_of_verbatim verbatim port scheme

variable {topology : Topology} {profile : Profile} {document : Document} {service : Service}
  {probe : Probe} {path : String} {port : UInt16} {scheme : Scheme}

/-- The command of a healthcheck reaches the shell as it is meant, for every environment. -/
theorem exists_healthcheck (interpolation : Interpolation) (environment : Environment)
    (rendered : ofTopology topology profile = .ok document)
    (declared : service ∈ topology.services) (probed : healthProbe? service = some probe)
    (handled : probe.handler = .httpGet path port scheme) :
    ∃ made check, document.services.lookup service.name = some made ∧
      made.healthcheck = some check ∧
      interpolation.replace environment check.command.toList =
        .literal (fetch port scheme ++ path ++ " || exit 1").toList := by
  obtain ⟨made, given, found⟩ := exists_container rendered declared
  refine ⟨made, _, found, (shows_of_container given).healthcheck.trans (congrArg _ probed), ?_⟩
  dsimp only
  rw [handled, toList_checkCommand]
  exact interpolation.replace_escapeChars environment _

/-- A service with an HTTP probe has a healthcheck, whose text is the same for every environment.
A shell reads it as one request for the address of the probe, with the path as it is, and a failure
behind it, exactly if it can be given the path and the path means itself within a word. -/
theorem healthcheck_runs_probe_iff (interpolation : Interpolation) (environment : Environment)
    (rendered : ofTopology topology profile = .ok document)
    (declared : service ∈ topology.services) (probed : healthProbe? service = some probe)
    (handled : probe.handler = .httpGet path port scheme) :
    ∃ made check text, document.services.lookup service.name = some made ∧
      made.healthcheck = some check ∧
      interpolation.replace environment check.command.toList = .literal text ∧
      (run? text = some (probing path port scheme) ↔
        Verbatim path.toList ∧ '\x00' ∉ path.toList) := by
  obtain ⟨made, check, found, checked, replaced⟩ :=
    exists_healthcheck interpolation environment rendered declared probed handled
  exact ⟨made, check, _, found, checked, replaced, run?_eq_some_probing_iff⟩

/-- An application that is probed at a path. -/
def asking.declared (path : String) : ManifestService :=
  { ManifestService.ofRole "app" "app_server" "app" with
    probes := { PerKind.replicate none with
      readiness := some { ManifestProbe.standard with http := some ⟨path, 8000, .http⟩ } } }

def asking (path : String) : Manifest where
  name := "stack"
  readinessTimeoutSecs := 30
  secrets := .empty
  volumes := .empty
  edge := .standard
  services := [asking.declared path]

/-- The application as it is meant. -/
def asking.app (path : String) : Service := (asking.declared path).toService .standard 30 .appServer

/-- The stack for a path in which a dollar begins no expansion. -/
def asking.priced : Topology := (asking "/cost/$/~5=#1").toTopology.toOption.get (by decide +kernel)

theorem priced_runs_probe :
    ∃ document made check text, (asking "/cost/$/~5=#1").toTopology = .ok asking.priced ∧
      ofTopology asking.priced .evaluation = .ok document ∧
      document.services.lookup "app" = some made ∧
      made.healthcheck = some check ∧
      braces.replace (fun _ => some "shown") check.command.toList = .literal text ∧
      run? text = some
        [⟨.always, literals ["wget", "-q", "-O", "/dev/null",
          "http://127.0.0.1:8000/cost/$/~5=#1"]⟩, ⟨.onFailure, literals ["exit", "1"]⟩] := by
  have described : (asking "/cost/$/~5=#1").toTopology = .ok asking.priced := Outcome.eq_ok_get _
  obtain ⟨document, rendered⟩ : ∃ document, ofTopology asking.priced .evaluation = .ok document :=
    exists_ofTopology_iff.2 (by decide +kernel)
  have declared : asking.app "/cost/$/~5=#1" ∈ asking.priced.services := by decide +kernel
  obtain ⟨made, check, text, found, checked, replaced, runs⟩ :=
    healthcheck_runs_probe_iff braces (fun _ => some "shown") rendered declared rfl rfl
  refine ⟨document, made, check, text, described, rendered, found, checked, replaced, ?_⟩
  refine (runs.2 ⟨by decide +kernel, by decide +kernel⟩).trans ?_
  decide +kernel

/-- The stack for a path that a shell takes for the end of a command. -/
def asking.parted : Topology := (asking "/status;full").toTopology.toOption.get (by decide +kernel)

/-- The rest of the path is run as a command of its own, and alone decides about the failure. -/
theorem parted_runs_another_command :
    ∃ document made check text, (asking "/status;full").toTopology = .ok asking.parted ∧
      ofTopology asking.parted .evaluation = .ok document ∧
      document.services.lookup "app" = some made ∧
      made.healthcheck = some check ∧
      braces.replace (fun _ => some "shown") check.command.toList = .literal text ∧
      run? text = some
        [⟨.always, literals ["wget", "-q", "-O", "/dev/null", "http://127.0.0.1:8000/status"]⟩,
          ⟨.always, literals ["full"]⟩, ⟨.onFailure, literals ["exit", "1"]⟩] := by
  have described : (asking "/status;full").toTopology = .ok asking.parted := Outcome.eq_ok_get _
  obtain ⟨document, rendered⟩ : ∃ document, ofTopology asking.parted .evaluation = .ok document :=
    exists_ofTopology_iff.2 (by decide +kernel)
  have declared : asking.app "/status;full" ∈ asking.parted.services := by decide +kernel
  obtain ⟨made, check, found, checked, replaced⟩ :=
    exists_healthcheck braces (fun _ => some "shown") rendered declared rfl rfl
  refine ⟨document, made, check, _, described, rendered, found, checked, replaced, ?_⟩
  decide +kernel

end Convoy.Compose
