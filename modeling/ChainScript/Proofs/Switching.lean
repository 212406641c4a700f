import ChainScript.Shell
import Mathlib.Data.List.Forall2
import Mathlib.Tactic.Lemma

/-!
# The trace switch only shows warnings

What a line does to the context, and the execution it makes, do not depend on whether warnings are
shown. So two sessions with the same lines apart from those that switch the trace go through the
same contexts and make the same executions. A response differs only by the warnings at its end.
-/

namespace ChainScript

open Text

namespace Request

/-- The first word of a line. -/
def command (line : String) : String :=
  String.ofList (breakAtBlank (trim line.toList)).1

/-- The line switches the trace. -/
def isSwitch (line : String) : Bool :=
  command line == ":trace"

/-- The execution that a request makes in a context, if it makes one. -/
def execution? (c : Context) (files : FileTree) : Request → Option Execution
  | .chain text => some (c.executeChain files text .empty).1
  | .voice name inputs => some (c.executeVoice files name inputs).1
  | .nothing | .voices | .definitions | .load _ | .trace => none

lemma read_of_isSwitch {line : String} (h : isSwitch line = true) : read line = .trace := by
  have hcommand : String.ofList (breakAtBlank (trim line.toList)).1 = ":trace" := eq_of_beq h
  simp only [read, hcommand]

lemma read_ne_trace {line : String} (h : isSwitch line = false) : read line ≠ .trace := by
  have hcommand : String.ofList (breakAtBlank (trim line.toList)).1 ≠ ":trace" :=
    beq_eq_false_iff_ne.mp h
  simp only [read]
  split
  case h_5 htrace => exact absurd htrace hcommand
  case h_6 => split_ifs <;> simp
  all_goals simp

end Request

/-! ### One line -/

/-- The warnings of an execution on lines of their own, if they are to be shown. -/
def Execution.warningLines (tracing : Bool) (e : Execution) : String :=
  String.join ((if tracing then e.warnings else []).map fun w => "\n  warning: " ++ w.message)

/-- A line of a session, and what came of it. -/
structure Exchange where
  line : String
  /-- Warnings were shown when the line was read. -/
  tracing : Bool
  /-- The execution that the line made, if it made one. -/
  execution? : Option Execution
  response : String

namespace Exchange

/-- The line switched the trace. -/
def isSwitch (x : Exchange) : Bool :=
  Request.isSwitch x.line

/-- What the response shows of warnings. -/
def warningLines (x : Exchange) : String :=
  x.execution?.elim "" (Execution.warningLines x.tracing)

/-- The same line made the same execution, and the responses are the same but for the warnings that
each of them shows at its end. -/
structure Agrees (x y : Exchange) : Prop where
  line : x.line = y.line
  execution : x.execution? = y.execution?
  response : ∃ plain, x.response = plain ++ x.warningLines ∧ y.response = plain ++ y.warningLines

namespace Agrees

variable {x y z : Exchange}

lemma symm (h : Agrees x y) : Agrees y x where
  line := h.line.symm
  execution := h.execution.symm
  response := by
    obtain ⟨plain, hx, hy⟩ := h.response
    exact ⟨plain, hy, hx⟩

lemma trans (hxy : Agrees x y) (hyz : Agrees y z) : Agrees x z where
  line := hxy.line.trans hyz.line
  execution := hxy.execution.trans hyz.execution
  response := by
    obtain ⟨plain, hx, hy⟩ := hxy.response
    obtain ⟨plain', hy', hz⟩ := hyz.response
    have hplain : plain = plain' := (String.append_left_inj _).mp (hy.symm.trans hy')
    exact ⟨plain, hx, hplain ▸ hz⟩

lemma forall₂_trans {xs ys zs : List Exchange} (hxy : List.Forall₂ Agrees xs ys)
    (hyz : List.Forall₂ Agrees ys zs) : List.Forall₂ Agrees xs zs := by
  induction hxy generalizing zs with
  | nil => exact hyz
  | cons hxy _ ih =>
    cases hyz with
    | cons hyz hrest => exact .cons (hxy.trans hyz) (ih hrest)

end Agrees

end Exchange

namespace Shell

/-- The session with warnings hidden. -/
def quiet (s : Shell) : Shell :=
  { s with tracing := false }

/-- What comes of a line. -/
def exchange (s : Shell) (files : FileTree) (line : String) : Exchange where
  line
  tracing := s.tracing
  execution? := (Request.read line).execution? s.context files
  response := (s.respond files line).1

@[simp] lemma isSwitch_exchange (s : Shell) (files : FileTree) (line : String) :
    (s.exchange files line).isSwitch = Request.isSwitch line := rfl

section

variable (s : Shell) (files : FileTree)

/-- Unless the trace is switched, a request is answered as with warnings hidden, and the warnings of
its execution come after that. -/
lemma answer_eq {request : Request} (h : request ≠ .trace) :
    s.answer files request =
      ((s.quiet.answer files request).1 ++
          (request.execution? s.context files).elim "" (Execution.warningLines s.tracing),
        { (s.quiet.answer files request).2 with tracing := s.tracing }) := by
  cases request with
  | nothing => simp [answer, Request.execution?, quiet]
  | voices => simp [answer, Request.execution?, quiet]
  | definitions => simp [answer, Request.execution?, quiet]
  | load path =>
    simp only [answer, Request.execution?, quiet]
    cases s.context.load files path <;> simp
  | trace => exact absurd rfl h
  | chain text => simp [answer, Request.execution?, quiet, render, Execution.warningLines]
  | voice name inputs => simp [answer, Request.execution?, quiet, render, Execution.warningLines]

lemma response_eq {line : String} (h : Request.isSwitch line = false) :
    (s.exchange files line).response =
      (s.quiet.exchange files line).response ++ (s.exchange files line).warningLines := by
  simp only [exchange, respond, Exchange.warningLines]
  rw [answer_eq s files (Request.read_ne_trace h)]

lemma context_respond_eq {line : String} (h : Request.isSwitch line = false) :
    (s.respond files line).2.context = (s.quiet.respond files line).2.context := by
  rw [respond, respond, answer_eq s files (Request.read_ne_trace h)]

lemma context_respond_of_isSwitch {line : String} (h : Request.isSwitch line = true) :
    (s.respond files line).2.context = s.context := by
  rw [respond, Request.read_of_isSwitch h]
  rfl

end

section

variable {s t : Shell} (hcontext : s.context = t.context)

include hcontext

lemma quiet_congr : s.quiet = t.quiet := by
  rw [quiet, quiet, hcontext]

lemma agrees_exchange (files : FileTree) {line : String} (h : Request.isSwitch line = false) :
    (s.exchange files line).Agrees (t.exchange files line) where
  line := rfl
  execution := by rw [exchange, exchange, hcontext]
  response := by
    refine ⟨(s.quiet.exchange files line).response, response_eq s files h, ?_⟩
    rw [quiet_congr hcontext]
    exact response_eq t files h

lemma context_respond_congr (files : FileTree) {line : String}
    (h : Request.isSwitch line = false) :
    (s.respond files line).2.context = (t.respond files line).2.context := by
  rw [context_respond_eq s files h, context_respond_eq t files h, quiet_congr hcontext]

end

/-! ### Sessions -/

/-- What comes of lines, one after the other. -/
def transcript (files : FileTree) : Shell → List String → List Exchange
  | _, [] => []
  | s, line :: rest => s.exchange files line :: transcript files (s.respond files line).2 rest

/-- The session after lines. -/
def after (files : FileTree) (s : Shell) (lines : List String) : Shell :=
  lines.foldl (fun s line => (s.respond files line).2) s

lemma transcript_cons (files : FileTree) (s : Shell) (line : String) (rest : List String) :
    transcript files s (line :: rest) =
      s.exchange files line :: transcript files (s.respond files line).2 rest := rfl

lemma after_cons (files : FileTree) (s : Shell) (line : String) (rest : List String) :
    after files s (line :: rest) = after files (s.respond files line).2 rest :=
  List.foldl_cons ..

/-- Lines that switch the trace can be left out. -/
lemma agrees_transcript (hcontext : s.context = t.context) (files : FileTree)
    (lines : List String) :
    List.Forall₂ Exchange.Agrees ((transcript files s lines).filter (!·.isSwitch))
        (transcript files t (lines.filter (!Request.isSwitch ·))) ∧
      (s.after files lines).context =
        (t.after files (lines.filter (!Request.isSwitch ·))).context := by
  -- the two sessions share their contexts throughout, but one may show warnings and one may not
  induction lines generalizing s t with
  | nil => exact ⟨.nil, hcontext⟩
  | cons line rest ih =>
    cases hswitch : Request.isSwitch line with
    | true =>
      have hnext := (context_respond_of_isSwitch s files hswitch).trans hcontext
      rw [transcript_cons, after_cons, List.filter_cons_of_neg (by simp [hswitch]),
        List.filter_cons_of_neg (by simp [hswitch])]
      exact ih hnext
    | false =>
      obtain ⟨hrest, hafter⟩ := ih (context_respond_congr hcontext files hswitch)
      rw [transcript_cons, after_cons, List.filter_cons_of_pos (by simp [hswitch]),
        List.filter_cons_of_pos (by simp [hswitch]), transcript_cons, after_cons]
      exact ⟨.cons (agrees_exchange hcontext files hswitch) hrest, hafter⟩

/-- If two sessions begin alike and their lines are the same apart from those that switch the trace,
then the exchanges of the other lines agree: the same line makes the same execution, if any, and the
responses are one text, which is followed by a line for each warning of the execution where warnings
are shown. At the end the contexts are equal. -/
theorem switch_only_shows (s : Shell) (files : FileTree) {lines lines' : List String}
    (h : lines.filter (!Request.isSwitch ·) = lines'.filter (!Request.isSwitch ·)) :
    List.Forall₂ Exchange.Agrees ((transcript files s lines).filter (!·.isSwitch))
        ((transcript files s lines').filter (!·.isSwitch)) ∧
      (s.after files lines).context = (s.after files lines').context := by
  obtain ⟨hagrees, hcontext⟩ := agrees_transcript (rfl : s.context = s.context) files lines
  obtain ⟨hagrees', hcontext'⟩ := agrees_transcript (rfl : s.context = s.context) files lines'
  rw [← h] at hagrees' hcontext'
  have hflip := (hagrees'.imp fun _ _ => Exchange.Agrees.symm).flip
  exact ⟨Exchange.Agrees.forall₂_trans hagrees hflip, hcontext.trans hcontext'.symm⟩

end Shell

namespace Toggled

/-- A voice that cannot be entered from itself, and an include that leads nowhere. -/
def files : FileTree where
  entries := [(["a.voices"], .file (some "voice ring(x) / { no idea -> ring }\ninclude b.voices"))]

def shell : Shell := .ofContext (.ofConfig { root := "/" })

/-- No warnings are shown. -/
def plain : List String := ["ring x=1", ":defs", "{ ring }", ":load b.voices"]

/-- The same lines, with warnings shown for the voice and for the last line. -/
def toggled : List String :=
  [":trace", "ring x=1", ":trace off", ":defs", "{ ring }", "  :trace\tagain", ":load b.voices"]

theorem switch_only_shows_toggled :
    plain.filter (!Request.isSwitch ·) = toggled.filter (!Request.isSwitch ·) ∧
      List.Forall₂ Exchange.Agrees
        ((Shell.transcript files shell plain).filter (!·.isSwitch))
        ((Shell.transcript files shell toggled).filter (!·.isSwitch)) ∧
      (shell.after files plain).context = (shell.after files toggled).context :=
  have hlines : plain.filter (!Request.isSwitch ·) = toggled.filter (!Request.isSwitch ·) := by
    decide +kernel
  ⟨hlines, Shell.switch_only_shows shell files hlines⟩

end Toggled

end ChainScript
