import Byline.Proofs.Storage.Sources
import Byline.Proofs.Text.Utf8
import Byline.Run.Rules

/-!
# Scripts read from files

A script in a file is read line by line, and a line that is no text ends it. What it does up to
there is what the script does that consists of the lines above (`runOctets_eq_run`). Whether the
file is a text is known only at its end: the changes to the records are kept either way, and the
counts are lost with the rest of the script.
-/

namespace Byline.Script

open Utf8 (Bytes)

/-- The lines of a file above the first that is no text. -/
def wholeLines (b : Bytes) : List Bytes := (Utf8.lines b).takeWhile Utf8.isValid

/-- The whole lines of a file are the lines of a text. -/
theorem exists_text (b : Bytes) : ∃ v : String, Utf8.ofString v = (wholeLines b).flatten ∧
    (splitInclusive isNewline v.toList).map Utf8.encode = wholeLines b := by
  have hlines : Utf8.lines (wholeLines b).flatten = wholeLines b :=
    splitInclusive_flatten_of_sublist rfl (List.takeWhile_sublist Utf8.isValid)
  have hvalid : Utf8.isValid (wholeLines b).flatten = true := by
    rw [← Utf8.all_isValid_lines, hlines]
    exact List.all_takeWhile
  obtain ⟨v, hv⟩ := Utf8.isValid_iff.1 hvalid
  refine ⟨v, hv, ?_⟩
  rw [← Utf8.lines_encode, ← Utf8.ofString, hv, hlines]

namespace State

/-- Lines that are texts are read as these texts, and a line that is none ends the script. -/
theorem stepsOctets_append (s : State) (texts : List (List Char)) {rest : List Bytes}
    (hrest : ∀ line ∈ rest.head?, Utf8.isValid line = false) :
    let done := s.steps (texts.map fun text => String.ofList (chomp text))
    s.stepsOctets (texts.map Utf8.encode ++ rest) = (done.1, done.2, rest.isEmpty) := by
  intro done
  induction texts generalizing s with
  | nil =>
    cases rest with
    | nil => rfl
    | cons line rest =>
      have hline := Utf8.decode?_of_not_isValid (hrest line rfl)
      rw [List.map_nil, List.nil_append, stepsOctets, hline]
      rfl
  | cons text texts ih =>
    rw [List.map_cons, List.cons_append, stepsOctets, Utf8.decode?_encode]
    simp only [ih, done, List.map_cons, steps]

end State

/-- A script that does not grow while it is read is read as it is. -/
theorem load_of_not_held {path : String} {j : Journal} {b : Bytes} (rs : Records)
    (hheld : j.disk.isHeld path = false) (hb : j.disk.read path = .ok b) :
    load path rs j = ((runOctets b rs).1.records,
      if (runOctets b rs).2.2 then .ok (runOctets b rs).1.stats
        else .error (.unreadableScript path .invalidText),
      j.addLog (runOctets b rs).2.1) := by
  have hstep : readScript path b rs j =
      ((runOctets b rs).1, (runOctets b rs).2.2, j.addLog (runOctets b rs).2.1) := by
    rw [readScript, hheld]
    rfl
  rw [load, Disk.lookup_of_read hb]
  simp only [Disk.content, hstep]

theorem isEmpty_dropWhile_isValid (b : Bytes) :
    ((Utf8.lines b).dropWhile Utf8.isValid).isEmpty = Utf8.isValid b := by
  rw [← Utf8.all_isValid_lines, Bool.eq_iff_iff, List.isEmpty_iff, List.dropWhile_eq_nil_iff,
    List.all_eq_true]

/-- A file as a script, and the text in its whole lines as a script: the records and the counts are
the same, and so are the events. The file is read to its end just if it is a text; if it is not,
loading it fails, and the records are as the whole lines left them. This holds of a script that does
not grow while it is read. -/
theorem runOctets_eq_run (b : Bytes) (rs : Records) : ∃ v : String,
    Utf8.ofString v = (wholeLines b).flatten ∧
    (runOctets b rs).1 = (run v rs).1 ∧ (runOctets b rs).2.1 = (run v rs).2 ∧
    ((runOctets b rs).2.2 = true ↔ ∃ text : String, Utf8.ofString text = b) ∧
    ∀ (path : String) (j : Journal), j.disk.isHeld path = false → j.disk.read path = .ok b →
      load path rs j = ((run v rs).1.records,
        if (runOctets b rs).2.2 then .ok (run v rs).1.stats
          else .error (.unreadableScript path .invalidText),
        j.addLog (run v rs).2) := by
  obtain ⟨v, hv, hlines⟩ := exists_text b
  have hcut : Utf8.lines b = wholeLines b ++ (Utf8.lines b).dropWhile Utf8.isValid :=
    List.takeWhile_append_dropWhile.symm
  have hrest : ∀ line ∈ ((Utf8.lines b).dropWhile Utf8.isValid).head?,
      Utf8.isValid line = false := by
    intro line hline
    have hhead := List.head?_dropWhile_not Utf8.isValid (Utf8.lines b)
    rw [Option.mem_def.1 hline] at hhead
    simpa using hhead
  have hrun : runOctets b rs = ((run v rs).1, (run v rs).2, Utf8.isValid b) := by
    have hsteps := State.stepsOctets_append { records := rs } (splitInclusive isNewline v.toList) hrest
    rw [runOctets, hcut, ← hlines, hsteps, isEmpty_dropWhile_isValid, run, lines, List.map_map,
      Function.comp_def]
  refine ⟨v, hv, ?_, ?_, ?_, fun path j hheld hb => ?_⟩
  · rw [hrun]
  · rw [hrun]
  · rw [hrun]
    exact Utf8.isValid_iff
  · rw [load_of_not_held rs hheld hb, hrun]

/-- A script whose second line ends with a carriage return and a line feed. Its third line is no
text. -/
def brokenScript : Bytes := Utf8.ofString "$ A\n+ x\r\n" ++ [0xFF] ++ Utf8.ofString "\n+ y\n"

def brokenScriptJournal : Journal :=
  { disk := { root := .dir [(".authors", .file brokenScript)], home := [] } }

/-- The first two lines are in effect. -/
theorem runOctets_eq_run_broken : ∃ v : String, Utf8.ofString v = Utf8.ofString "$ A\n+ x\r\n" ∧
    load ".authors" [{ path := "A.java", typeName := some "A" }] brokenScriptJournal =
      ((run v [{ path := "A.java", typeName := some "A" }]).1.records,
        .error (.unreadableScript ".authors" .invalidText),
        brokenScriptJournal.addLog (run v [{ path := "A.java", typeName := some "A" }]).2) := by
  obtain ⟨v, hv, -, -, -, hload⟩ :=
    runOctets_eq_run brokenScript [{ path := "A.java", typeName := some "A" }]
  have hwhole : (runOctets brokenScript [{ path := "A.java", typeName := some "A" }]).2.2 = false := by
    decide +kernel
  refine ⟨v, hv.trans (by decide +kernel), ?_⟩
  rw [hload ".authors" brokenScriptJournal (by decide +kernel) rfl, hwhole]
  rfl

end Byline.Script
