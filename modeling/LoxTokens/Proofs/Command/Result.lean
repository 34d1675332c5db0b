import LoxTokens.Command.Basic
import LoxTokens.Proofs.Command.Arguments
import LoxTokens.Proofs.Output.Accounting
import LoxTokens.Proofs.Session.Memory
import LoxTokens.Proofs.Session.Script

/-! What the command tells of a script, and of what is typed in at its prompt. -/

namespace LoxTokens.Command

/-- What is told of a script that cannot be read. -/
structure Unread (path : String) (cause : Failure) (result : Result) : Prop where
  code : result.outcome.code = 74
  output : result.output = []
  errors : result.errors =
    bytes ("Error: could not read " ++ path ++ ": " ++ cause.message ++ ".\n")

/-- What is told of a script that can be read; what is no text in it has been replaced. -/
structure Listed (quiet highlights : Bool) (content : List UInt8) (result : Result) : Prop where
  output : result.output = if quiet then [] else
    Utf8.encode ((Scan.ofText (Utf8.decodeLossy content)).tokens.flatMap (·.worded.toList))
  errors : result.errors =
    ReportStream.lines highlights (Scan.ofText (Utf8.decodeLossy content)).diagnostics
  code : result.outcome.code =
    if (Scan.ofText (Utf8.decodeLossy content)).diagnostics = [] then 0 else 65

/-- How the prompt ends, which depends on the input alone and not on any faults in it. -/
structure Prompted (input : Input) (result : Result) : Prop where
  text : (input.fails = false ∧ ∃ text, input.bytes = Utf8.encode text) →
    result.outcome.code = 0
  noText : ¬(input.fails = false ∧ ∃ text, input.bytes = Utf8.encode text) →
    result.outcome.code = 74
  neverFaulty : result.outcome.code ≠ 65

/-- What the command tells of a script, or of what is typed in when there is none. -/
def Tells (around : Surroundings) (quiet plain : Bool) (result : Result) : Option String → Prop
  | some path =>
    match around.read path with
    | .error cause => Unread path cause result
    | .ok content => Listed quiet (around.colours.allowed && !plain) content result
  | none => Prompted around.input result

section Sessions

variable (quiet coloured : Bool)

/-- A script that cannot be read leaves the session of the command as it was. -/
theorem unread_finish (path : String) (cause : Failure) :
    Unread path cause (finish ((session quiet coloured).runScript path (.error cause))) := by
  constructor
  case code => rfl
  case output => rfl
  case errors =>
    -- The message names the path and the cause, and the line for errors goes around it.
    have start : "Error: could not read " = "Error: " ++ "could not read " := by decide
    have message : (SessionError.unreadable path cause).message =
        "could not read " ++ path ++ ": " ++ cause.message := rfl
    have told : (finish ((session quiet coloured).runScript path (.error cause))).errors =
        bytes (errorLine (SessionError.unreadable path cause).message) := List.nil_append _
    rw [told, errorLine, message, start]
    simp only [String.append_assoc]

/-- What a fresh stream is told of goes to its sink when it is flushed. -/
theorem reports_told (diagnostics : List Diagnostic) :
    reports ((session quiet coloured).reporter.told [.report diagnostics, .flush]) =
      ReportStream.lines coloured diagnostics :=
  ReportStream.flatMap_line { highlights := coloured } diagnostics

/-- A script that can be read is listed, and its faults are reported. -/
theorem listed_finish (path : String) (content : List UInt8) : Listed quiet coloured content
    (finish ((session quiet coloured).runScript path (.ok content))) := by
  -- Nothing limits the output or the reports, so all is delivered.
  let scan := Scan.ofText (Utf8.decodeLossy content)
  let start := session quiet coloured
  have ran := Session.runScript_of_unlimited (show start.out.settings = {} from rfl) path content
  -- A fresh stream remembers no faults but those of the script.
  have remembered : (start.reporter.told [.report scan.diagnostics, .flush]).hadError =
      !scan.diagnostics.isEmpty := by
    have clean : start.reporter.hadError = false := rfl
    simp [Reporter.told, Reporter.hear, clean]
  simp only [scan, start] at ran remembered
  rw [ran, remembered]
  constructor
  case output => rfl
  case errors => exact reports_told quiet coloured _
  case code =>
    simp only [finish]
    cases scan.diagnostics <;> rfl

/-- At the prompt, the command ends with success exactly on an input that is all text. -/
theorem prompted_finish (input : Input) :
    let (result, after) := (session quiet coloured).runPrompt input
    Prompted input (finish (result.map fun _ => .success, after)) := by
  have finished := Session.runPrompt_eq_ok_iff
    (show (session quiet coloured).out.settings = {} from rfl) input
  -- All that the code depends on is whether the prompt went well.
  generalize (session quiet coloured).runPrompt input = ended at finished ⊢
  obtain ⟨result, after⟩ := ended
  cases result with
  | ok done =>
    have isText := finished.mp rfl
    constructor
    case text => exact fun _ => rfl
    case noText => exact fun noText => absurd isText noText
    case neverFaulty =>
      show 0 ≠ 65
      decide
  | error error =>
    constructor
    case text =>
      intro isText
      cases finished.mpr isText
    case noText => exact fun _ => rfl
    case neverFaulty =>
      show 74 ≠ 65
      decide

end Sessions

/--
The command tells of a script just what there is to tell of it, whatever reading it gives.

Wherever the flags stand, its listing goes to the output and its faults to the errors, and the code
says whether there are any. The prompt has no such code, since a fault there is that of one line.
-/
theorem run_tells (around : Surroundings) {arguments : List Argument} {quiet plain : Bool}
    {script : Option String}
    (madeOf : Plan.MadeOf arguments quiet plain (script.toList.map bytes)) :
    Tells around quiet plain (runIn around arguments) script := by
  have plan := Plan.ofArguments_of_madeOf madeOf
  rw [runIn, plan]
  cases script with
  | none => exact prompted_finish quiet _ around.input
  | some path =>
    -- What reading the path gives decides which of the two there is to tell of.
    simp only [Tells]
    rw [carryOut]
    cases around.read path with
    | error cause => exact unread_finish quiet _ path cause
    | ok content => exact listed_finish quiet _ path content

/-- A script that can be read, one with the name of a flag that cannot, and a prompt. -/
theorem run_tells_marked :
    let content := bytes "\"\u0301\"\n@" ++ [0xFF]
    let around : Surroundings := {
      read := fun path =>
        if path = "/tmp/marked.lox" then .ok content
        else .error (.other "Permission denied (os error 13)")
      input := { bytes := content }
      colours := { force := some "1" } }
    let named := [bytes "/tmp/marked.lox", bytes "--no-color"]
    let denied := [bytes "--quiet", bytes "--quiet"]
    let unnamed := [bytes "--no-color"]
    (Plan.MadeOf named false true [bytes "/tmp/marked.lox"] ∧
      Tells around false true (runIn around named) (some "/tmp/marked.lox") ∧
      (runIn around named).outcome = .faulty ∧
      (runIn around named).output = bytes "<\tSTRING \"\u0301\" \u0301\n<\tEOF  null\n" ∧
      (runIn around named).errors = bytes ("[line: 2] Error: Unexpected character '@'.\n" ++
        "[line: 2] Error: Unexpected character '\uFFFD'.\n")) ∧
    (Plan.MadeOf denied true false [bytes "--quiet"] ∧
      Tells around true false (runIn around denied) (some "--quiet") ∧
      (runIn around denied).outcome = .broken ∧
      (runIn around denied).errors =
        bytes "Error: could not read --quiet: Permission denied (os error 13).\n") ∧
    Plan.MadeOf unnamed false true [] ∧
      Tells around false true (runIn around unnamed) none ∧
      (runIn around unnamed).outcome = .broken := by
  intro content around named denied unnamed
  have script : Plan.MadeOf named false true [bytes "/tmp/marked.lox"] :=
    ⟨by decide, by decide, by decide, by decide⟩
  have flags : Plan.MadeOf denied true false [bytes "--quiet"] :=
    ⟨by decide, by decide, by decide, by decide⟩
  have prompt : Plan.MadeOf unnamed false true [] := ⟨by decide, by decide, by decide, by decide⟩
  refine ⟨⟨script, run_tells around script, ?_⟩, ⟨flags, run_tells around flags, ?_⟩,
    prompt, run_tells around prompt, ?_⟩
  all_goals
    unfold around content
    decide +kernel

end LoxTokens.Command
