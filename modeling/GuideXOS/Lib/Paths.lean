import Mathlib.Data.List.Basic

/-!
# `Paths` — separated paths as lists of names

A path is text in which a separator stands before each name. `names` reads the names back, whatever empty ones
stand between, and `prefix_iff` turns "the text goes on after a separator" into "the names go on", which is what
a table keyed by paths has to compare. A prefix of names is found by its length alone (`LongestPrefix.unique`),
and `scanLongest` is the loop that looks for it.
-/

namespace Lib.Paths

section Names

variable {α : Type _} [DecidableEq α] {sep : α} {path : List (List α)}

/-- The name being read, unless it is empty. -/
def finished (current : List α) : List (List α) := if current = [] then [] else [current]

/-- The names of a text; `current` is what was read of the first one. -/
def namesAfter (sep : α) : List α → List α → List (List α)
  | current, [] => finished current
  | current, c :: rest =>
      if c = sep then finished current ++ namesAfter sep [] rest else namesAfter sep (current ++ [c]) rest

/-- The names between separators. -/
def names (sep : α) (text : List α) : List (List α) := namesAfter sep [] text

/-- What can stand between separators. -/
def IsName (sep : α) (name : List α) : Prop := name ≠ [] ∧ sep ∉ name

/-- Each name, after a separator. -/
def written (sep : α) (path : List (List α)) : List α := path.flatMap (sep :: ·)

/-- The absolute path of the names; the root has a separator of its own. -/
def absolute (sep : α) (path : List (List α)) : List α := if path = [] then [sep] else written sep path

omit [DecidableEq α] in
theorem written_append (path path' : List (List α)) :
    written sep (path ++ path') = written sep path ++ written sep path' := List.flatMap_append

omit [DecidableEq α] in
theorem written_cons (name : List α) (path : List (List α)) :
    written sep (name :: path) = sep :: (name ++ written sep path) := List.flatMap_cons

omit [DecidableEq α] in
theorem finished_of_ne {current : List α} (h : current ≠ []) : finished current = [current] := if_neg h

@[simp] theorem namesAfter_sep (current rest : List α) :
    namesAfter sep current (sep :: rest) = finished current ++ names sep rest := if_pos rfl

/-- A name is read as a whole. -/
theorem namesAfter_append {name : List α} (h : sep ∉ name) (current rest : List α) :
    namesAfter sep current (name ++ rest) = namesAfter sep (current ++ name) rest := by
  induction name generalizing current with
  | nil => rw [List.nil_append, List.append_nil]
  | cons c name ih =>
      obtain ⟨hc, hname⟩ := List.ne_and_not_mem_of_not_mem_cons h
      rw [List.cons_append, namesAfter, if_neg hc.symm, ih hname, List.append_assoc, List.singleton_append]

section
variable (h : ∀ name ∈ path, IsName sep name)
include h

/-- The names that follow a name. -/
theorem namesAfter_written {current rest : List α} (hcurrent : current ≠ [])
    (hrest : rest = [] ∨ ∃ tail, rest = sep :: tail) :
    namesAfter sep current (written sep path ++ rest) = current :: (path ++ names sep rest) := by
  induction path generalizing current with
  | nil =>
      rcases hrest with rfl | ⟨tail, rfl⟩
      · exact finished_of_ne hcurrent
      · show namesAfter sep current (sep :: tail) = current :: namesAfter sep [] (sep :: tail)
        rw [namesAfter_sep, namesAfter_sep, finished_of_ne hcurrent]
        rfl
  | cons name path ih =>
      obtain ⟨hname, hpath⟩ := List.forall_mem_cons.mp h
      rw [written_cons, List.cons_append, namesAfter_sep, names, List.append_assoc, namesAfter_append hname.2,
        List.nil_append, ih hpath hname.1, finished_of_ne hcurrent]
      rfl

/-- **Reading back** what is written, up to a separator. -/
theorem names_written_append {rest : List α} (hrest : rest = [] ∨ ∃ tail, rest = sep :: tail) :
    names sep (written sep path ++ rest) = path ++ names sep rest := by
  cases path with
  | nil => rfl
  | cons name path =>
      obtain ⟨hname, hpath⟩ := List.forall_mem_cons.mp h
      rw [written_cons, names, List.cons_append, namesAfter_sep, names, List.append_assoc,
        namesAfter_append hname.2, List.nil_append, namesAfter_written hpath hname.1 hrest]
      rfl

theorem names_written : names sep (written sep path) = path := by
  have hread := names_written_append h (.inl rfl : ([] : List α) = [] ∨ _)
  rw [List.append_nil] at hread
  rw [hread]
  exact List.append_nil path

theorem names_absolute : names sep (absolute sep path) = path := by
  unfold absolute
  split
  case isTrue hpath =>
    rw [hpath, names, namesAfter_sep]
    rfl
  case isFalse => exact names_written h

end

/-- A separator cuts text in two. -/
theorem namesAfter_append_sep (current base rest : List α) :
    namesAfter sep current (base ++ sep :: rest) = namesAfter sep current base ++ names sep rest := by
  induction base generalizing current with
  | nil => exact namesAfter_sep current rest
  | cons c base ih =>
      rw [List.cons_append, namesAfter, namesAfter]
      split
      · rw [ih, List.append_assoc]
      · exact ih _

theorem isName_of_mem_namesAfter {current text : List α} (hcurrent : sep ∉ current) :
    ∀ name ∈ namesAfter sep current text, IsName sep name := by
  have hfinished : ∀ {current : List α}, sep ∉ current → ∀ name ∈ finished current, IsName sep name := by
    intro current h name hname
    unfold finished at hname
    split at hname
    case isTrue => cases hname
    case isFalse hne => exact List.mem_singleton.mp hname ▸ ⟨hne, h⟩
  induction text generalizing current with
  | nil => exact hfinished hcurrent
  | cons c rest ih =>
      intro name hname
      rw [namesAfter] at hname
      split at hname
      case isTrue =>
        rcases List.mem_append.mp hname with hname | hname
        · exact hfinished hcurrent name hname
        · exact ih List.not_mem_nil name hname
      case isFalse hc =>
        refine ih (fun hmem => ?_) name hname
        rcases List.mem_append.mp hmem with hmem | hmem
        · exact hcurrent hmem
        · exact hc (List.mem_singleton.mp hmem).symm

theorem isName_of_mem_names {text : List α} : ∀ name ∈ names sep text, IsName sep name :=
  isName_of_mem_namesAfter List.not_mem_nil

/-- **Prefixes.** One path goes on where the other ends, after a separator or not at all, exactly if its names
    go on. -/
theorem prefix_iff {path' : List (List α)} (h : ∀ name ∈ path, IsName sep name)
    (h' : ∀ name ∈ path', IsName sep name) :
    (written sep path' = written sep path ∨ ∃ rest, written sep path' = written sep path ++ sep :: rest) ↔
      path <+: path' := by
  constructor
  · rintro (heq | ⟨rest, heq⟩)
    · have hsame : path' = path := by rw [← names_written h', heq, names_written h]
      exact hsame ▸ List.prefix_rfl
    · refine ⟨names sep (sep :: rest), ?_⟩
      rw [← names_written_append h (.inr ⟨rest, rfl⟩), ← heq, names_written h']
  · rintro ⟨rest, rfl⟩
    rw [written_append]
    cases rest with
    | nil => exact .inl (List.append_nil _)
    | cons name rest => exact .inr ⟨name ++ written sep rest, by rw [written_cons]⟩

omit [DecidableEq α] in
/-- **Text that goes on** after a separator or not at all, as it is compared: the front, and the item behind it. -/
theorem goesOn_iff {text text' : List α} :
    (text' = text ∨ ∃ rest, text' = text ++ sep :: rest) ↔
      text'.take text.length = text ∧ (text.length < text'.length → text'[text.length]? = some sep) := by
  constructor
  · rintro (rfl | ⟨rest, rfl⟩)
    · exact ⟨List.take_length, fun h => absurd h (Nat.lt_irrefl _)⟩
    · refine ⟨List.take_left, fun _ => ?_⟩
      rw [List.getElem?_append_right (Nat.le_refl _), Nat.sub_self]
      rfl
  · rintro ⟨htake, hnext⟩
    have hsplit := List.take_append_drop text.length text'
    rw [htake] at hsplit
    by_cases hlength : text.length < text'.length
    · obtain ⟨hlt, hsep⟩ := List.getElem?_eq_some_iff.mp (hnext hlength)
      rw [List.drop_eq_getElem_cons hlt, hsep] at hsplit
      exact .inr ⟨_, hsplit.symm⟩
    · rw [List.drop_eq_nil_of_le (Nat.not_lt.mp hlength), List.append_nil] at hsplit
      exact .inl hsplit.symm

omit [DecidableEq α] in
theorem written_eq_nil : written sep path = [] ↔ path = [] := by
  cases path with
  | nil => exact ⟨fun _ => rfl, fun _ => rfl⟩
  | cons name path =>
      rw [written_cons]
      exact ⟨nofun, nofun⟩

omit [DecidableEq α] in
theorem absolute_ne_nil (path : List (List α)) : absolute sep path ≠ [] := by
  unfold absolute
  split
  case isTrue => nofun
  case isFalse hne => exact fun h => hne (written_eq_nil.mp h)

omit [DecidableEq α] in
/-- A path that is not the root has a name, and so more than its separator. -/
theorem one_lt_length_written (h : ∀ name ∈ path, IsName sep name) (hpath : path ≠ []) :
    1 < (written sep path).length := by
  cases path with
  | nil => exact absurd rfl hpath
  | cons name path =>
      have hname := List.length_pos_of_ne_nil (h name List.mem_cons_self).1
      rw [written_cons, List.length_cons, List.length_append]
      omega

end Names

/-! ## Names that only move about -/

section Moves

variable {β : Type _}

/-- A stack of names: `stay` is left out, `up` takes the last name back. -/
def settle [DecidableEq β] (stay up : β) : List β → List β → List β
  | stack, [] => stack
  | stack, name :: rest =>
      if name = stay then settle stay up stack rest
      else if name = up then settle stay up stack.dropLast rest
      else settle stay up (stack ++ [name]) rest

variable [DecidableEq β] {stay up : β}

theorem settle_of_settled {path : List β} (h : ∀ name ∈ path, name ≠ stay ∧ name ≠ up) (stack : List β) :
    settle stay up stack path = stack ++ path := by
  induction path generalizing stack with
  | nil => exact (List.append_nil stack).symm
  | cons name path ih =>
      obtain ⟨hname, hpath⟩ := List.forall_mem_cons.mp h
      rw [settle, if_neg hname.1, if_neg hname.2, ih hpath, List.append_assoc, List.singleton_append]

/-- What is left are names of the path that do not move. -/
theorem mem_settle {stack path : List β} {name : β} (h : name ∈ settle stay up stack path) :
    name ∈ stack ∨ name ∈ path ∧ name ≠ stay ∧ name ≠ up := by
  induction path generalizing stack with
  | nil => exact .inl h
  | cons first path ih =>
      rw [settle] at h
      split at h
      case isTrue => exact (ih h).imp_right fun h => ⟨List.mem_cons_of_mem _ h.1, h.2⟩
      case isFalse hstay =>
        split at h
        case isTrue =>
          exact (ih h).imp (List.dropLast_subset stack ·) fun h => ⟨List.mem_cons_of_mem _ h.1, h.2⟩
        case isFalse hup =>
          rcases ih h with hstack | hpath
          · rcases List.mem_append.mp hstack with hstack | hfirst
            · exact .inl hstack
            · rw [List.mem_singleton.mp hfirst]
              exact .inr ⟨List.mem_cons_self, hstay, hup⟩
          · exact .inr ⟨List.mem_cons_of_mem _ hpath.1, hpath.2⟩

end Moves

/-! ## The longest prefix -/

section Longest

variable {β γ : Type _}

/-- The key of a table that is the longest prefix of a path. -/
structure LongestPrefix (keys : List (List β)) (path key : List β) : Prop where
  mem : key ∈ keys
  isPrefix : key <+: path
  longest : ∀ other ∈ keys, other <+: path → other.length ≤ key.length

/-- The loop that keeps the longest entry so far; a later one has to be longer. -/
def scanLongest (length : γ → Nat) (covers : γ → Bool) : Option γ → Nat → List γ → Option γ
  | best, _, [] => best
  | best, bestLength, x :: xs =>
      if covers x && bestLength < length x then scanLongest length covers (some x) (length x) xs
      else scanLongest length covers best bestLength xs

variable {length : γ → Nat} {covers : γ → Bool}

theorem scanLongest_spec {best : Option γ} {bestLength : Nat} {xs : List γ}
    (hlength : bestLength = best.elim 0 length) :
    match scanLongest length covers best bestLength xs with
    | none => best = none ∧ ∀ y ∈ xs, covers y = true → length y = 0
    | some x => (best = some x ∨ x ∈ xs ∧ covers x = true) ∧ bestLength ≤ length x ∧
        ∀ y ∈ xs, covers y = true → length y ≤ length x := by
  induction xs generalizing best bestLength with
  | nil =>
      cases best with
      | none => exact ⟨rfl, List.forall_mem_nil _⟩
      | some x => exact ⟨.inl rfl, Nat.le_of_eq hlength, List.forall_mem_nil _⟩
  | cons x xs ih =>
      rw [scanLongest]
      by_cases hx : (covers x && bestLength < length x) = true
      · rw [if_pos hx]
        obtain ⟨hcovers, hlt⟩ := Bool.and_eq_true_iff.mp hx
        have hx := of_decide_eq_true hlt
        have hrest := @ih (some x) (length x) rfl
        cases hscan : scanLongest length covers (some x) (length x) xs with
        | none =>
            rw [hscan] at hrest
            cases hrest.1
        | some z =>
            rw [hscan] at hrest
            obtain ⟨hz, hle, hmax⟩ := hrest
            refine ⟨.inr ?_, Nat.le_trans (Nat.le_of_lt hx) hle, List.forall_mem_cons.mpr ⟨fun _ => hle, hmax⟩⟩
            rcases hz with hz | ⟨hz, hcz⟩
            · cases hz
              exact ⟨List.mem_cons_self, hcovers⟩
            · exact ⟨List.mem_cons_of_mem _ hz, hcz⟩
      · rw [if_neg hx]
        have hskip : covers x = true → length x ≤ bestLength := by
          intro hcovers
          rw [hcovers, Bool.true_and, decide_eq_true_eq] at hx
          exact Nat.not_lt.mp hx
        have hrest := ih hlength
        cases hscan : scanLongest length covers best bestLength xs with
        | none =>
            rw [hscan] at hrest
            obtain ⟨rfl, hmax⟩ := hrest
            exact ⟨rfl, List.forall_mem_cons.mpr
              ⟨fun hcovers => Nat.le_zero.mp (Nat.le_trans (hskip hcovers) (Nat.le_of_eq hlength)), hmax⟩⟩
        | some z =>
            rw [hscan] at hrest
            obtain ⟨hz, hle, hmax⟩ := hrest
            exact ⟨hz.imp_right fun hz => ⟨List.mem_cons_of_mem _ hz.1, hz.2⟩, hle,
              List.forall_mem_cons.mpr ⟨fun hcovers => Nat.le_trans (hskip hcovers) hle, hmax⟩⟩

/-- **What the loop finds.** -/
theorem scanLongest_start (length : γ → Nat) (covers : γ → Bool) (xs : List γ) :
    match scanLongest length covers none 0 xs with
    | none => ∀ y ∈ xs, covers y = true → length y = 0
    | some x => x ∈ xs ∧ covers x = true ∧ ∀ y ∈ xs, covers y = true → length y ≤ length x := by
  have hspec := @scanLongest_spec γ length covers none 0 xs rfl
  cases hscan : scanLongest length covers none 0 xs with
  | none =>
      rw [hscan] at hspec
      exact hspec.2
  | some x =>
      rw [hscan] at hspec
      obtain ⟨hmem, hcovers⟩ := hspec.1.resolve_left nofun
      exact ⟨hmem, hcovers, hspec.2.2⟩

end Longest

end Lib.Paths
