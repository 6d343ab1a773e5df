import GuideXOS.Lib.Lines
import GuideXOS.Machine.Devices

/-!
# `ConsoleText` — the order of what is written to a console

The text of a buffer is its complete lines and the line that is not complete. Characters and texts are written where it
ends. `appendLine` means to complete the current line first, but `completeLine` does nothing to a line without its
newline: the whole line is put before the partial one. In a run where no line is appended to a partial one, the text is
everything that was written, or the part of it from some line on.
-/

namespace GuideXOS.Machine
open Lib Lib.Runs Lib.Lines

namespace ConsoleOutputBuffer

/-! ## Writing -/

variable (b : ConsoleOutputBuffer) (s : ConsoleOutputBuffer × List Char) (maxBytes : ℕ)

/-- **`completeLine`**: nothing is done unless the current line ends with its newline, which is taken off. -/
def completeLine : ConsoleOutputBuffer :=
  if b.currentLine.toList.getLast? = some '\n' then
    ({ b with
      lines := b.lines ++ [String.ofList b.currentLine.toList.dropLast]
      currentLine := "" }).enforceMaxLines
  else b

/-- **`appendText`.** -/
def appendText (text : String) : ConsoleOutputBuffer := text.toList.foldl appendChar b

/-- **`appendLine`.** -/
def appendLine (line : String) : ConsoleOutputBuffer :=
  let b := if b.currentLine = "" then b else b.completeLine
  ({ b with
    lines := b.lines ++ [line]
    totalBytesWritten := b.totalBytesWritten + UInt64.ofNat (line.length + 1) }).enforceMaxLines

/-! ## Reading -/

/-- **`substr`** to the end. -/
def substr (s : String) (pos : ℕ) : String := String.ofList (s.toList.drop pos)

/-- The loop over the complete lines, from the last one on. -/
def collect (maxBytes : ℕ) : List String → ℕ → String → String
  | [], _, collected => collected
  | line :: lines, bytesCollected, collected =>
      if bytesCollected < maxBytes then
        let lineLength := line.length + 1
        if bytesCollected + lineLength ≤ maxBytes then
          collect maxBytes lines (bytesCollected + lineLength) (line ++ "\n" ++ collected)
        else
          let remainingBytes := maxBytes - bytesCollected
          if 0 < remainingBytes then substr line (line.length - (remainingBytes - 1)) ++ "\n" ++ collected
          else collected
      else collected

/-- What is taken of the current line, and how much it is. -/
def collectCurrent (maxBytes : ℕ) : String × ℕ :=
  if b.currentLine ≠ "" ∧ 0 < maxBytes then
    let bytesToAdd := min b.currentLine.length maxBytes
    (if bytesToAdd < b.currentLine.length then substr b.currentLine (b.currentLine.length - bytesToAdd)
      else b.currentLine, bytesToAdd)
  else ("", 0)

/-- **`getRecentOutput`.** -/
def getRecentOutput (maxBytes : ℕ) : String :=
  let (result, bytesCollected) := b.collectCurrent maxBytes
  if bytesCollected < maxBytes ∧ b.lines ≠ [] then collect maxBytes b.lines.reverse bytesCollected "" ++ result
  else result

/-- The text of a buffer. -/
def text : List Char := joined '\n' (b.lines.map String.toList) ++ b.currentLine.toList

@[simp] theorem toList_substr (s : String) (pos : ℕ) : (substr s pos).toList = s.toList.drop pos := by
  rw [substr, String.toList_ofList]

/-- **The loop collects the last part** of the complete lines. -/
theorem toList_collect (lines : List String) (bytesCollected : ℕ) (collected : String) :
    (collect maxBytes lines bytesCollected collected).toList =
      (joined '\n' (lines.reverse.map String.toList)).rtake (maxBytes - bytesCollected) ++ collected.toList := by
  induction lines generalizing bytesCollected collected with
  | nil =>
      show collected.toList = List.rtake [] (maxBytes - bytesCollected) ++ collected.toList
      rw [List.rtake_nil, List.nil_append]
  | cons line lines ih =>
      have hnewline : "\n".toList = ['\n'] := rfl
      have hlength : (line.toList ++ ['\n']).length = line.length + 1 := by
        rw [List.length_append, String.length_toList]
        rfl
      rw [List.reverse_cons, List.map_append, joined_append, List.map_singleton, joined_singleton, rtake_append, hlength,
        collect]
      by_cases hroom : bytesCollected < maxBytes
      · rw [if_pos hroom]
        dsimp only
        by_cases hwhole : bytesCollected + (line.length + 1) ≤ maxBytes
        · rw [if_pos hwhole, ih, rtake_of_length_le (l := line.toList ++ ['\n']) (by omega), String.toList_append,
            String.toList_append, hnewline, Nat.sub_add_eq, List.append_assoc, List.append_assoc, List.append_assoc]
        · -- the line that is not taken whole is the last one
          rw [if_neg hwhole, if_pos (by omega), String.toList_append, String.toList_append, hnewline, toList_substr]
          have hnone : maxBytes - bytesCollected - (line.length + 1) = 0 := by omega
          have hpart : (line.toList ++ ['\n']).rtake (maxBytes - bytesCollected) =
              line.toList.drop (line.length - (maxBytes - bytesCollected - 1)) ++ ['\n'] := by
            rw [rtake_append, List.rtake, String.length_toList]
            congr 1
            exact rtake_of_length_le (by rw [List.length_singleton]; omega)
          rw [hnone, List.rtake_zero, List.nil_append, hpart]
      · have hzero : maxBytes - bytesCollected = 0 := by omega
        rw [if_neg hroom, hzero, Nat.zero_sub, List.rtake_zero, List.rtake_zero]
        rfl

theorem collectCurrent_spec :
    (b.collectCurrent maxBytes).1.toList = b.currentLine.toList.rtake maxBytes ∧
      (b.collectCurrent maxBytes).2 = min b.currentLine.length maxBytes := by
  unfold collectCurrent
  by_cases h : b.currentLine ≠ "" ∧ 0 < maxBytes
  · rw [if_pos h]
    dsimp only
    refine ⟨?_, rfl⟩
    split
    · next hlt =>
      have hmin : min b.currentLine.length maxBytes = maxBytes := by omega
      rw [toList_substr, hmin, List.rtake, String.length_toList]
    · next hge => exact (rtake_of_length_le (by rw [String.length_toList]; omega)).symm
  · rw [if_neg h]
    by_cases hempty : b.currentLine = ""
    · rw [hempty]
      exact ⟨List.rtake_nil _ |>.symm, (Nat.zero_min _).symm⟩
    · have hzero : maxBytes = 0 := Nat.eq_zero_of_not_pos fun hpos => h ⟨hempty, hpos⟩
      rw [hzero, List.rtake_zero]
      exact ⟨rfl, (Nat.min_zero _).symm⟩

/-- **`getRecentOutput`** is the last part of the text. -/
theorem toList_getRecentOutput : (b.getRecentOutput maxBytes).toList = b.text.rtake maxBytes := by
  obtain ⟨hresult, hcollected⟩ := b.collectCurrent_spec maxBytes
  have hroom : maxBytes - (b.collectCurrent maxBytes).2 = maxBytes - b.currentLine.length := by omega
  have htext : b.text.rtake maxBytes =
      (joined '\n' (b.lines.map String.toList)).rtake (maxBytes - b.currentLine.length) ++
        b.currentLine.toList.rtake maxBytes := by
    rw [text, rtake_append, String.length_toList]
  unfold getRecentOutput
  dsimp only
  rw [htext, ← hresult]
  split
  · rw [String.toList_append, toList_collect, List.reverse_reverse, hroom]
    simp
  · next h =>
    by_cases hlines : b.lines = []
    · rw [hlines, List.map_nil, joined_nil, List.rtake_nil, List.nil_append]
    · have hnone : maxBytes - b.currentLine.length = 0 := by
        have hge : ¬ (b.collectCurrent maxBytes).2 < maxBytes := fun hlt => h ⟨hlt, hlines⟩
        omega
      rw [hnone, List.rtake_zero, List.nil_append]

/-! ## Runs -/

inductive ConsoleOp where
  | appendChar (c : Char)
  | appendText (text : String)
  | appendLine (line : String)

/-- What an operation appends. -/
def ConsoleOp.appended : ConsoleOp → List Char
  | .appendChar c => [c]
  | .appendText text => text.toList
  | .appendLine line => line.toList ++ ['\n']

def write : ConsoleOp → ConsoleOutputBuffer
  | .appendChar c => b.appendChar c
  | .appendText text => b.appendText text
  | .appendLine line => b.appendLine line

/-- A buffer, with everything that was appended to it. -/
def step (op : ConsoleOp) : ConsoleOutputBuffer × List Char :=
  (s.1.write op, s.2 ++ op.appended)

/-- **The text is in order**: everything that was appended without a limit, and what starts at some line with one; and
the recent output is the last part of it. -/
def Ordered : Prop :=
  (s.1.maxLines = 0 → s.1.text = s.2) ∧ StartsALine '\n' s.2 s.1.text ∧
    ∀ n, (s.1.getRecentOutput n).toList = s.1.text.rtake n

/-- A line is appended where a line starts: what was appended before is empty or ends with a newline. -/
def ConsoleOp.StartsFresh (appended : List Char) : ConsoleOp → Prop
  | .appendLine _ => Complete '\n' appended
  | _ => True

/-- What is kept of `appended`: its part after the last newline is the current line, and the complete lines are what is
left of the part before. -/
structure Keeps (b : ConsoleOutputBuffer) (appended before : List Char) : Prop where
  split : appended = before ++ b.currentLine.toList
  complete : Complete '\n' before
  current : '\n' ∉ b.currentLine.toList
  kept : StartsALine '\n' before (joined '\n' (b.lines.map String.toList))
  unlimited : b.maxLines = 0 → before = joined '\n' (b.lines.map String.toList)

/-- What **`enforceMaxLines`** does to the lines. -/
theorem enforceMaxLines_spec : ∃ k, b.enforceMaxLines = { b with lines := b.lines.drop k } ∧
    (b.maxLines = 0 → k = 0) := by
  unfold enforceMaxLines
  split
  · exact ⟨0, rfl, fun _ => rfl⟩
  · next hne => exact ⟨_, rfl, fun hzero => absurd hzero hne⟩

section
variable {b : ConsoleOutputBuffer}

/-- A complete line more. -/
theorem Keeps.enforceMaxLines {before : List Char} (hcomplete : Complete '\n' before)
    (hcurrent : b.currentLine = "") (hkept : StartsALine '\n' before (joined '\n' (b.lines.map String.toList)))
    (hunlimited : b.maxLines = 0 → before = joined '\n' (b.lines.map String.toList)) :
    Keeps b.enforceMaxLines before before := by
  obtain ⟨k, hlines, hk⟩ := b.enforceMaxLines_spec
  rw [hlines]
  refine ⟨?_, hcomplete, ?_, ?_, fun hzero => ?_⟩
  · show before = before ++ b.currentLine.toList
    rw [hcurrent]
    exact (List.append_nil _).symm
  · show '\n' ∉ b.currentLine.toList
    rw [hcurrent]
    exact List.not_mem_nil
  · dsimp only
    rw [List.map_drop]
    exact hkept.drop k
  · dsimp only
    rw [hk hzero]
    exact hunlimited hzero

theorem Keeps.appendChar {appended before : List Char} (h : Keeps b appended before)
    (c : Char) : ∃ before', Keeps (b.appendChar c) (appended ++ [c]) before' := by
  unfold ConsoleOutputBuffer.appendChar
  dsimp only
  by_cases hc : c = '\n'
  · subst hc
    refine ⟨before ++ (b.currentLine.toList ++ ['\n']), ?_⟩
    have hlines : joined '\n' ((b.lines ++ [b.currentLine]).map String.toList) =
        joined '\n' (b.lines.map String.toList) ++ (b.currentLine.toList ++ ['\n']) := by
      rw [List.map_append, joined_append, List.map_singleton, joined_singleton]
    rw [if_pos rfl, h.split, List.append_assoc]
    refine Keeps.enforceMaxLines ?_ rfl ?_ fun hzero => ?_
    · rw [← List.append_assoc]
      exact complete_concat _
    · rw [hlines]
      exact h.kept.append _
    · rw [hlines, ← h.unlimited hzero]
  · refine ⟨before, ?_, h.complete, ?_, ?_, ?_⟩ <;> rw [if_neg hc]
    · rw [String.toList_push, h.split, List.append_assoc]
    · rw [String.toList_push, List.mem_append, List.mem_singleton]
      exact not_or.mpr ⟨h.current, Ne.symm hc⟩
    · exact h.kept
    · exact h.unlimited

theorem Keeps.appendText {appended before : List Char} (h : Keeps b appended before)
    (text : List Char) : ∃ before', Keeps (text.foldl ConsoleOutputBuffer.appendChar b) (appended ++ text) before' := by
  induction text generalizing b appended before with
  | nil =>
      rw [List.append_nil]
      exact ⟨before, h⟩
  | cons c text ih =>
      obtain ⟨before', h'⟩ := h.appendChar c
      have hrest := ih h'
      rwa [List.append_assoc, List.singleton_append] at hrest

/-- A line may be appended where the current line is empty. -/
theorem Keeps.currentLine_iff {appended before : List Char} (h : Keeps b appended before) :
    b.currentLine = "" ↔ Complete '\n' appended := by
  rw [h.split]
  constructor
  · intro hempty
    rw [hempty]
    exact (List.append_nil before).symm ▸ h.complete
  · intro hcomplete
    by_contra hne
    have hne' : b.currentLine.toList ≠ [] := fun hnil => hne (String.toList_eq_nil_iff.mp hnil)
    rcases hcomplete with hnil | hlast
    · exact hne' (List.append_eq_nil_iff.mp hnil).2
    · rw [List.getLast?_append, List.getLast?_eq_some_getLast hne', Option.some_or, Option.some.injEq] at hlast
      exact h.current (hlast ▸ List.getLast_mem hne')

theorem Keeps.appendLine {appended before : List Char} (h : Keeps b appended before)
    (hempty : b.currentLine = "") (line : String) :
    ∃ before', Keeps (b.appendLine line) (appended ++ (line.toList ++ ['\n'])) before' := by
  have hsplit : appended = before := by
    rw [h.split, hempty]
    exact List.append_nil before
  have hlines : joined '\n' ((b.lines ++ [line]).map String.toList) =
      joined '\n' (b.lines.map String.toList) ++ (line.toList ++ ['\n']) := by
    rw [List.map_append, joined_append, List.map_singleton, joined_singleton]
  unfold ConsoleOutputBuffer.appendLine
  rw [if_pos hempty, hsplit]
  refine ⟨_, Keeps.enforceMaxLines ?_ hempty ?_ fun hzero => ?_⟩
  · rw [← List.append_assoc]
    exact complete_concat _
  · rw [hlines]
    exact h.kept.append _
  · rw [hlines, ← h.unlimited hzero]

theorem Keeps.ordered {appended before : List Char} (h : Keeps b appended before) : Ordered (b, appended) := by
  refine ⟨fun hzero => ?_, ?_, b.toList_getRecentOutput⟩
  · rw [text, ← h.unlimited hzero, ← h.split]
  · rw [h.split, text]
    exact h.kept.append _

/-- **A line that is appended to a partial one** is put before it. -/
theorem Keeps.not_ordered {appended before : List Char} (h : Keeps b appended before)
    (hne : b.currentLine ≠ "") (line : String) : ¬ Ordered (b.appendLine line, appended ++ (line.toList ++ ['\n'])) := by
  have hne' : b.currentLine.toList ≠ [] := fun hnil => hne (String.toList_eq_nil_iff.mp hnil)
  have hlast : b.currentLine.toList.getLast? ≠ some '\n' := by
    rw [List.getLast?_eq_some_getLast hne', ne_eq, Option.some.injEq]
    exact fun heq => h.current (heq ▸ List.getLast_mem hne')
  have hcurrent : (b.appendLine line).currentLine = b.currentLine := by
    unfold ConsoleOutputBuffer.appendLine completeLine
    rw [if_neg hne, if_neg hlast]
    obtain ⟨k, hlines, -⟩ := enforceMaxLines_spec
      { b with lines := b.lines ++ [line], totalBytesWritten := b.totalBytesWritten + UInt64.ofNat (line.length + 1) }
    rw [hlines]
  rintro ⟨-, hstarts, -⟩
  have htext : (b.appendLine line).text ≠ [] := by
    rw [text, hcurrent]
    exact fun hnil => hne' (List.append_eq_nil_iff.mp hnil).2
  have hsame := hstarts.getLast? htext
  rw [← List.append_assoc, List.getLast?_concat, text, hcurrent, List.getLast?_append,
    List.getLast?_eq_some_getLast hne', Option.some_or, ← List.getLast?_eq_some_getLast hne'] at hsame
  exact hlast hsame.symm

end

/-- **The order is kept** in the runs in which a line is appended only where a line starts. -/
theorem ordered_iff : ∀ (maxLines : UInt64) (ops : List ConsoleOp),
    EveryStep step (fun s op => Ordered (step s op)) ({ maxLines := maxLines }, []) ops ↔
      EveryStep step (fun s op => op.StartsFresh s.2) ({ maxLines := maxLines }, []) ops := by
  intro maxLines ops
  refine everyStep_congr (fun s => ∃ before, Keeps s.1 s.2 before) (fun s op hs => ?_) (fun s op hs hop => ?_) ?_
  · obtain ⟨before, h⟩ := hs
    cases op with
    | appendChar c =>
        obtain ⟨before', h'⟩ := h.appendChar c
        exact iff_of_true h'.ordered trivial
    | appendText text =>
        obtain ⟨before', h'⟩ := h.appendText text.toList
        exact iff_of_true h'.ordered trivial
    | appendLine line =>
        show Ordered (s.1.appendLine line, s.2 ++ (line.toList ++ ['\n'])) ↔ Complete '\n' s.2
        rw [← h.currentLine_iff]
        refine ⟨fun hordered => ?_, fun hempty => ?_⟩
        · by_contra hne
          exact h.not_ordered hne line hordered
        · obtain ⟨before', h'⟩ := h.appendLine hempty line
          exact h'.ordered
  · obtain ⟨before, h⟩ := hs
    cases op with
    | appendChar c => exact h.appendChar c
    | appendText text => exact h.appendText text.toList
    | appendLine line => exact h.appendLine (h.currentLine_iff.mpr hop) line
  · exact ⟨[], rfl, .inl rfl, List.not_mem_nil, .refl _, fun _ => rfl⟩

/-- `ab`, and then the line `c`: it is put first. -/
theorem appendLine_partial :
    let s := run step (({ maxLines := 0 } : ConsoleOutputBuffer), []) [.appendText "ab", .appendLine "c"]
    s.2 = ['a', 'b', 'c', '\n'] ∧ s.1.text = ['c', '\n', 'a', 'b'] ∧ ¬ Ordered s := by
  intro s
  have htext : s.1.text = ['c', '\n', 'a', 'b'] := by decide +kernel
  have happended : s.2 = ['a', 'b', 'c', '\n'] := by decide +kernel
  refine ⟨happended, htext, fun hordered => ?_⟩
  have hsame := hordered.1 (by decide +kernel)
  rw [htext, happended] at hsame
  exact absurd hsame (by decide)

end ConsoleOutputBuffer

end GuideXOS.Machine
