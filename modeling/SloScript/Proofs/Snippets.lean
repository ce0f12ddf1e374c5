import SloScript.Proofs.Dialogues
import SloScript.Proofs.Underlining

/-!
# The line that a dialogue shows with an error

A function may be declared by one line of a dialogue and called by a later one. If it fails then,
the place of the error is a place in the earlier line, while the diagnostic takes its snippet out of
the line that was being run. The snippet is the line of that number, and it is the right one if the
two texts have the same line there; in particular, if what failed is written in the line that was
being run.

Results:
1. `IsLine.lineAt_eq`: a line of a text by its number.
2. `Diagnostic.quotes_iff`: a diagnostic taken out of one text quotes another one where they agree.
3. `Repl.after_sound`: the functions of a dialogue come from its lines.
4. `Repl.diagnostic_quotes_iff`: what the diagnostics of a dialogue quote.
-/

namespace SloScript

/-! ## Lines by their numbers -/

namespace Text

/-- The line of a text with the given number, counted from one; empty if there is none. -/
def lineAt (text : String) (number : Nat) : String := ((lines text)[number - 1]?).getD ""

theorem lineAt_succ (text : String) (k : Nat) :
    (lineAt text (1 + k)).toList = ((lineChars text.toList)[k]?).getD [] := by
  rw [lineAt, Nat.add_sub_cancel_left, lines, List.getElem?_map]
  cases (lineChars text.toList)[k]? with
  | none => rfl
  | some line => exact String.toList_ofList

/-- What is left behind the last line feed is an empty line, which the splitting leaves out. -/
theorem IsLine.lineAt_eq {text : String} {before line : List Char}
    (h : IsLine text.toList before line) :
    (lineAt text (1 + before.count '\n')).toList = line := by
  rw [lineAt_succ]
  by_cases left : before.length < text.toList.length
  · rw [h.getElem? left, Option.getD_some]
  · obtain ⟨starts, -, tail, all, -⟩ := h
    obtain ⟨rfl, rfl⟩ : line = [] ∧ tail = [] := by
      have size := congrArg List.length all
      simp only [List.length_append] at size
      exact ⟨List.eq_nil_of_length_eq_zero (by omega), List.eq_nil_of_length_eq_zero (by omega)⟩
    have whole : text.toList = before := by simpa using all
    rw [whole, starts.getElem?_eq_none, Option.getD_none]

/-- No line begins within a line. -/
theorem Starts.eq_of_within {before line earlier : List Char} (starts : Starts earlier)
    (unbroken : '\n' ∉ line) (behind : before <+: earlier) (within : earlier <+: before ++ line) :
    before = earlier := by
  obtain ⟨more, rfl⟩ := behind
  have part : more <+: line := (List.prefix_append_right_inj before).1 within
  rcases starts with none | last
  · rw [(List.append_eq_nil_iff.1 none).2, List.append_nil]
  · by_cases empty : more = []
    · rw [empty, List.append_nil]
    · rw [List.getLast?_append_of_ne_nil before empty] at last
      exact absurd (part.subset (List.mem_of_getLast? last)) unbroken

/-- A place is on one line of a text only. -/
theorem IsLine.before_eq {text before line earlier front rest : List Char}
    (h : IsLine text before line) (split : text = (earlier ++ front) ++ rest)
    (starts : Starts earlier) (unbroken : '\n' ∉ front)
    (after : before.length ≤ earlier.length + front.length)
    (within : earlier.length + front.length ≤ before.length + line.length) :
    before = earlier := by
  obtain ⟨starts', unbroken', tail, split', -⟩ := h
  have ours : before ++ line <+: text := ⟨tail, by rw [split', List.append_assoc]⟩
  have theirs : earlier ++ front <+: text := ⟨rest, split.symm⟩
  have first : before <+: text := (List.prefix_append before line).trans ours
  have second : earlier <+: text := (List.prefix_append earlier front).trans theirs
  rcases Nat.le_total before.length earlier.length with less | more
  · refine starts.eq_of_within unbroken' (List.prefix_of_prefix_length_le first second less) ?_
    exact List.prefix_of_prefix_length_le second ours (by rw [List.length_append]; omega)
  · symm
    refine starts'.eq_of_within unbroken (List.prefix_of_prefix_length_le second first more) ?_
    exact List.prefix_of_prefix_length_le first theirs (by rw [List.length_append]; omega)

end Text

/-! ## Quotations -/

namespace Diagnostic

/-- The snippet is the line of the text that the span begins on, and the underlined stretch lies
within it, or one place behind it. -/
structure Quotes (d : Diagnostic) (text : String) (span : Span) : Prop where
  snippet : ∃ before, Text.IsLine text.toList before d.snippet.toList ∧
    before.length ≤ span.start ∧ span.start ≤ before.length + d.snippet.length
  inside : d.column - 1 + d.length ≤ d.snippet.length + 1

/-- A diagnostic shows the line of the source with the number of its place. -/
theorem ofError_snippet {e : Error} (source : String) {k : Nat} (number : e.span.line = 1 + k) :
    let d := ofError e source
    d.column = e.span.column ∧ d.snippet = Text.lineAt source e.span.line ∧
      d.length ≤ max 1 (d.snippet.length - (d.column - 1)) := by
  intro d
  obtain ⟨-, column, shown⟩ := ofError_lines source number
  have line := Text.lineAt_succ source k
  rw [number, ← String.toList_inj, line]
  cases found : (Text.lineChars source.toList)[k]? with
  | none =>
    rw [found] at shown
    obtain ⟨snippet, length⟩ : d.snippet = "" ∧ d.length = 0 := shown
    refine ⟨column, by rw [snippet, Option.getD_none, String.toList_empty], ?_⟩
    omega
  | some chars =>
    rw [found] at shown
    obtain ⟨snippet, length⟩ := shown
    refine ⟨column, by rw [snippet, Option.getD_some, String.toList_ofList], ?_⟩
    rw [length, snippet, column, String.length_ofList]
    omega

/-- The diagnostic of an error that is written in one text, taken out of another text, quotes the
former if it has the same line there, and only then. -/
theorem quotes_iff {e : Error} {text : String} (written : e.WrittenIn text) (source : String) :
    (ofError e source).Quotes text e.span ↔
      Text.lineAt source e.span.line = Text.lineAt text e.span.line := by
  obtain ⟨before, rest, length, split, place, ordinary⟩ := written.marks
  obtain ⟨earlier, front, rfl, starts, unbroken⟩ := Text.exists_starts before
  have span := place.trans (Span.ofPosition_behind starts unbroken length)
  have start : e.span.start = earlier.length + front.length := congrArg Span.start span
  have number : e.span.line = 1 + earlier.count '\n' := congrArg Span.line span
  have place : e.span.column = 1 + front.length := congrArg Span.column span
  obtain ⟨column, snippet, width⟩ := ofError_snippet source number
  constructor
  · rintro ⟨⟨before, isLine, after, within⟩, -⟩
    rw [start] at after within
    obtain rfl := isLine.before_eq split starts unbroken after (by rwa [String.length_toList])
    rw [← snippet, number, ← String.toList_inj, isLine.lineAt_eq]
  · intro same
    obtain ⟨after, -, -, -, isLine⟩ := Text.exists_isLine starts unbroken ordinary
    rw [← split] at isLine
    have shown : (ofError e source).snippet.toList = front ++ after := by
      rw [snippet, same, number, isLine.lineAt_eq]
    have size : (ofError e source).snippet.length = front.length + after.length := by
      rw [← String.length_toList, shown, List.length_append]
    refine ⟨⟨earlier, shown ▸ isLine, ?_, ?_⟩, ?_⟩
    · omega
    · omega
    · omega

end Diagnostic

/-! ## Dialogues -/

namespace Session

theorem Sound.renewGlobals {sources : List String} {made : Closure → Prop} {s : Session}
    (h : s.Sound sources made) : s.renewGlobals.Sound sources made := by
  have created := Prelude.createScope_stays (.called sources made) s.host s.state h.functions
  unfold Session.renewGlobals
  generalize Prelude.createScope s.state = result at created ⊢
  obtain ⟨_ | scope, st⟩ := result
  all_goals exact ⟨created.1, h.callbacks⟩

end Session

namespace Repl

/-- The line that is run by a command. -/
def Command.line? : Command → Option String
  | .line text => some text
  | .reset => none

/-- The lines that are run by some commands. -/
def linesOf (commands : List Command) : List String := commands.filterMap Command.line?

theorem start_sound (host : Host) : (start host).session.Sound [] fun _ => False :=
  (Session.Sound.start rfl).renewGlobals

/-- A line adds its functions, and a reset forgets all functions. -/
theorem obey_sound {r : Repl} {sources : List String}
    (h : r.session.Sound sources fun _ => False) (command : Command) :
    (r.obey command).session.Sound (sources ++ linesOf [command]) fun _ => False := by
  cases command with
  | line text =>
    obtain ⟨journal, next⟩ := r.evalLine_session text
    have run : (r.session.eval text).2.Sound (sources ++ [text]) fun _ => False :=
      (h.eval text).mono (fun source member => by simpa [or_comm] using member) fun _ => id
    rw [obey, next]
    exact ⟨⟨run.functions.store, run.functions.memory⟩, run.callbacks⟩
  | reset =>
    have new := start_sound r.session.host
    have anew : r.reset.session.Sound [] fun _ => False :=
      ⟨⟨new.functions.store, new.functions.memory⟩, new.callbacks⟩
    exact anew.mono nofun fun _ => id

theorem foldl_obey_sound (commands : List Command) {r : Repl} {sources : List String}
    (h : r.session.Sound sources fun _ => False) :
    (commands.foldl obey r).session.Sound (sources ++ linesOf commands) fun _ => False := by
  induction commands generalizing r sources with
  | nil => rwa [linesOf, List.filterMap_nil, List.append_nil]
  | cons command commands ih =>
    have all := ih (obey_sound h command)
    rwa [List.append_assoc, linesOf, linesOf, ← List.filterMap_append] at all

/-- Whatever lines were run and forgotten, the functions of a dialogue come from its lines. -/
theorem after_sound (host : Host) (commands : List Command) :
    (after host commands).session.Sound (linesOf commands) fun _ => False :=
  foldl_obey_sound commands (start_sound host)

theorem evalLine_error (r : Repl) {line : String} {d : Diagnostic}
    (fails : (r.evalLine line).1 = .error d) : ∃ e, (r.session.eval line).1 = .error e ∧
      d = { Diagnostic.ofError e line with file := file } := by
  unfold evalLine at fails
  generalize r.session.eval line = run at fails ⊢
  obtain ⟨e | v, after⟩ := run
  · exact ⟨e, rfl, (Except.error.inj fails).symm⟩
  · cases fails

/-- Whatever lines were run and forgotten before, the diagnostic that a line is answered with has a
place. What failed is written in this line or in one of those before it. The diagnostic quotes the
text that it is written in if this text has the same line there as the line that was run, and only
then; so it always does if what failed is written in the line that was run. -/
theorem diagnostic_quotes_iff {host : Host} (commands : List Command)
    {line : String} {d : Diagnostic} (fails : ((after host commands).evalLine line).1 = .error d) :
    ∃ e, ((after host commands).session.eval line).1 = .error e ∧
      d = { Diagnostic.ofError e line with file := file } ∧ d.line = e.span.line ∧ d.line ≠ 0 ∧
      (∃ text ∈ line :: linesOf commands, e.WrittenIn text) ∧
      (e.WrittenIn line → d.Quotes line e.span) ∧
      ∀ text, e.WrittenIn text →
        (d.Quotes text e.span ↔ Text.lineAt line d.line = Text.lineAt text d.line) := by
  obtain ⟨e, failed, rfl⟩ := evalLine_error _ fails
  have alone : (after host commands).session.host.callbacks = #[] :=
    (after_continues host commands).host ▸ rfl
  obtain ⟨text, member, written⟩ := (after_sound host commands).exists_writtenIn alone failed
  obtain ⟨k, number⟩ := Nat.exists_eq_add_of_le written.marks.bounds.1.1
  have place : (Diagnostic.ofError e line).line = e.span.line :=
    (Diagnostic.ofError_lines line number).1
  have quotes (text : String) (written : e.WrittenIn text) :
      ({ Diagnostic.ofError e line with file := file } : Diagnostic).Quotes text e.span ↔
        Text.lineAt line e.span.line = Text.lineAt text e.span.line := by
    rw [← Diagnostic.quotes_iff written line]
    exact ⟨fun h => ⟨h.snippet, h.inside⟩, fun h => ⟨h.snippet, h.inside⟩⟩
  refine ⟨e, failed, rfl, place, ?_, ⟨text, member, written⟩, fun here => (quotes line here).2 rfl,
    fun text written => ?_⟩
  · rw [place]
    omega
  · rw [place]
    exact quotes text written

/-- After a reset, the second line of a text with two lines fails. -/
theorem diagnostic_quotes_iff_second_line :
    let host : Host := ⟨1, fun _ => ⟨0, 0, 0, 1, 1, 2000⟩, fun _ => 0, fun _ => none, #[]⟩
    let line := "null;\n  b"
    ∃ d span, ((after host [.reset]).evalLine line).1 = .error d ∧ d.snippet = "  b" ∧
      span.line = 2 ∧ d.Quotes line span := by
  intro host line
  have shown : (((after host [.reset]).evalLine line).1.mapError fun d =>
      (d.snippet, d.line)).map (fun _ => ()) = .error ("  b", 2) := by decide +kernel
  cases fails : ((after host [.reset]).evalLine line).1 with
  | ok v =>
    rw [fails] at shown
    cases shown
  | error d =>
    rw [fails] at shown
    obtain ⟨snippet, second⟩ := Prod.mk.inj (Except.error.inj shown)
    obtain ⟨e, -, -, place, -, ⟨text, member, written⟩, here, -⟩ :=
      diagnostic_quotes_iff [.reset] fails
    obtain rfl := List.mem_singleton.1 member
    exact ⟨d, e.span, rfl, snippet, place.symm.trans second, here written⟩

/-- A function fails in a call on a later line that is shorter. The snippet is this line, and the
underlined stretch lies far behind it. -/
theorem snippet_of_calling_line :
    let host : Host := ⟨1, fun _ => ⟨0, 0, 0, 1, 1, 2000⟩, fun _ => 0, fun _ => none, #[]⟩
    let r := after host [.line "funkcija f() \x7b y \x7d"]
    ∃ d, (r.evalLine "f()").1 = .error d ∧ d.message = "Undefined variable 'y'" ∧ d.line = 1 ∧
      d.snippet = "f()" ∧ d.column = 16 ∧ d.length = 1 ∧
      ¬d.column - 1 + d.length ≤ d.snippet.length + 1 := by
  intro host r
  have shown : ((r.evalLine "f()").1.mapError fun d =>
      (d.message, d.line, d.snippet, d.column, d.length)).map (fun _ => ()) =
        .error ("Undefined variable 'y'", 1, "f()", 16, 1) := by decide +kernel
  cases fails : (r.evalLine "f()").1 with
  | ok v =>
    rw [fails] at shown
    cases shown
  | error d =>
    rw [fails] at shown
    obtain ⟨message, line, snippet, column, length⟩ :
        d.message = _ ∧ d.line = 1 ∧ d.snippet = "f()" ∧ d.column = 16 ∧ d.length = 1 := by
      simpa only [Prod.mk.injEq] using Except.error.inj shown
    refine ⟨d, rfl, message, line, snippet, column, length, ?_⟩
    rw [column, length, snippet]
    decide

end Repl

end SloScript
