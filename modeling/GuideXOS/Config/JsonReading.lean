import GuideXOS.Config.JsonUtils

/-!
# `JsonReading` — what the parser makes of what the builder writes

Piece by piece: a string is read back exactly if the parser knows the escapes it is written with (`gives_parseString`),
numbers and booleans always are, and an object or an array gives what its items give (`gives_readObject`,
`gives_readArray`).
-/

namespace GuideXOS.Config
open Core Lib.Reading JsonParser

/-- The error of a string whose escapes the parser does not know. -/
def invalidEscape : JsonError := .runtime "Invalid escape sequence"

/-- A byte that is written as itself, or with an escape of one letter. -/
def Plain (c : UInt8) : Prop := 0x20 ≤ c ∧ c < 0x80 ∨ c = 0x08 ∨ c = 0x09 ∨ c = 0x0A ∨ c = 0x0C ∨ c = 0x0D

instance (c : UInt8) : Decidable (Plain c) := inferInstanceAs (Decidable (_ ∧ _ ∨ _))

def PlainText (str : Text) : Prop := ∀ c ∈ str, Plain c

instance (str : Text) : Decidable (PlainText str) := inferInstanceAs (Decidable (∀ c ∈ str, _))

def StartsWith (c : UInt8) (tail : Text) : Prop := ∃ rest, tail = c :: rest

/-- Whatever follows. -/
def Anything : Text → Prop := fun _ => True

/-- What follows a value: a comma, or the line of the closing bracket. -/
def FollowsValue (tail : Text) : Prop := StartsWith comma tail ∨ StartsWith newline tail

/-! ## White space -/

def Spaces (w : Text) : Prop := ∀ c ∈ w, isSpace c = true

theorem spaces_nil : Spaces [] := List.forall_mem_nil _

theorem spaces_space : Spaces [space] := List.forall_mem_singleton.mpr rfl

variable {w : Text} {c d : UInt8} (level : Nat)

section
variable (hw : Spaces w) (hc : isSpace c = false)
include hw hc

theorem skipWhitespace_eq (pos : Nat) (rest : Text) :
    skipWhitespace ⟨pos, w ++ c :: rest⟩ = .ok ((), ⟨pos + w.length, c :: rest⟩) := by
  have hnot : ¬ isSpace c = true := by rw [hc]; decide
  rw [skipWhitespace, List.takeWhile_append_of_pos hw, List.dropWhile_append_of_pos hw,
    List.takeWhile_cons_of_neg hnot, List.dropWhile_cons_of_neg hnot, List.append_nil]

theorem gives_consume : Gives invalidEscape consume (w ++ [c]) Anything True c := by
  refine ⟨fun _ pos tail _ => ⟨pos + w.length + 1, ?_⟩, fun h => absurd trivial h⟩
  rw [List.append_assoc, List.singleton_append, consume, bind_ok (skipWhitespace_eq hw hc pos tail)]

theorem gives_expect (what : String) : Gives invalidEscape (expect c what) (w ++ [c]) Anything True () := by
  have hcheck : Gives invalidEscape (do if c ≠ c then throw (.runtime (what ++ toString (← get).pos)) : Parser Unit) []
      Anything True () := by
    rw [if_neg (not_not_intro rfl)]
    exact gives_pure ()
  have hboth := (gives_consume hw hc).seq (f := fun d => do
    if d ≠ c then throw (.runtime (what ++ toString (← get).pos))) hcheck fun _ _ => trivial
  rw [List.append_nil] at hboth
  exact hboth

theorem gives_peek : Gives invalidEscape peek w (StartsWith c) True c := by
  refine ⟨?_, fun h => absurd trivial h⟩
  rintro _ pos tail ⟨rest, rfl⟩
  refine ⟨pos + w.length, ?_⟩
  rw [peek, bind_ok (skipWhitespace_eq hw hc pos rest)]
  rfl

theorem gives_tryMatch : Gives invalidEscape (tryMatch c) (w ++ [c]) Anything True true := by
  refine ⟨fun _ pos tail _ => ⟨pos + w.length + 1, ?_⟩, fun h => absurd trivial h⟩
  rw [List.append_assoc, List.singleton_append, tryMatch, bind_ok (skipWhitespace_eq hw hc pos tail)]
  exact if_pos rfl

end

theorem gives_tryMatch_other (hw : Spaces w) (hd : isSpace d = false) (hne : d ≠ c) :
    Gives invalidEscape (tryMatch c) w (StartsWith d) True false := by
  refine ⟨?_, fun h => absurd trivial h⟩
  rintro _ pos tail ⟨rest, rfl⟩
  refine ⟨pos + w.length, ?_⟩
  rw [tryMatch, bind_ok (skipWhitespace_eq hw hd pos rest)]
  exact if_neg hne

/-! ## Strings -/

/-- The signed character is below 32 from 128 on as well. -/
theorem toInt8_lt_iff : c.toInt8 < 32 ↔ c.toNat < 32 ∨ 128 ≤ c.toNat := by
  have hc := c.toNat_lt
  have hint : c.toInt8.toInt = (c.toNat : Int).bmod (2 ^ 8) := BitVec.toInt_eq_toNat_bmod c.toBitVec
  rw [Int8.lt_iff_toInt_lt, hint, Int.bmod_def]
  show (if (c.toNat : Int) % 256 < (256 + 1) / 2 then (c.toNat : Int) % 256 else (c.toNat : Int) % 256 - 256) < 32 ↔ _
  split <;> omega

theorem plain_iff : Plain c ↔ ¬ c.toInt8 < 32 ∨ c = 0x08 ∨ c = 0x09 ∨ c = 0x0A ∨ c = 0x0C ∨ c = 0x0D := by
  have hrange : 0x20 ≤ c ∧ c < 0x80 ↔ ¬ c.toInt8 < 32 := by
    rw [toInt8_lt_iff, UInt8.le_iff_toNat_le, UInt8.lt_iff_toNat_lt]
    show 32 ≤ c.toNat ∧ c.toNat < 128 ↔ _
    omega
  rw [Plain, hrange]

theorem parseChars_quote (result : Text) (pos : Nat) (rest : Text) :
    parseChars result pos (quote :: rest) = .ok (result, ⟨pos + 1, rest⟩) := by
  unfold parseChars
  rfl

theorem parseChars_escape (result : Text) (pos : Nat) (d : UInt8) (rest : Text) :
    parseChars result pos (backslash :: d :: rest) =
      match unescape d with
      | none => .error invalidEscape
      | some u => parseChars (result ++ [u]) (pos + 2) rest := by
  rw [parseChars.eq_def]
  rfl

theorem parseChars_other (hquote : c ≠ quote) (hbackslash : c ≠ backslash) (result : Text) (pos : Nat) (rest : Text) :
    parseChars result pos (c :: rest) = parseChars (result ++ [c]) (pos + 1) rest := by
  rw [parseChars.eq_def]
  dsimp only
  rw [if_neg hquote, if_neg hbackslash]

theorem parseChars_plain (h : Plain c) (result : Text) (pos : Nat) (rest : Text) :
    ∃ pos', parseChars result pos (escapeByte c ++ rest) = parseChars (result ++ [c]) pos' rest := by
  by_cases hquote : c = quote
  · subst hquote
    exact ⟨_, parseChars_escape _ _ _ _⟩
  by_cases hbackslash : c = backslash
  · subst hbackslash
    exact ⟨_, parseChars_escape _ _ _ _⟩
  rcases plain_iff.mp h with hlow | rfl | rfl | rfl | rfl | rfl
  · have hne : ∀ d : UInt8, d.toInt8 < 32 → c ≠ d := fun d hd heq => hlow (heq ▸ hd)
    rw [escapeByte, if_neg hquote, if_neg hbackslash, if_neg (hne _ (by decide)), if_neg (hne _ (by decide)),
      if_neg (hne _ (by decide)), if_neg (hne _ (by decide)), if_neg (hne _ (by decide)), if_neg hlow,
      List.singleton_append]
    exact ⟨_, parseChars_other hquote hbackslash _ _ _⟩
  all_goals exact ⟨_, parseChars_escape _ _ _ _⟩

theorem parseChars_not_plain (h : ¬ Plain c) (result : Text) (pos : Nat) (rest : Text) :
    parseChars result pos (escapeByte c ++ rest) = .error invalidEscape := by
  rw [plain_iff, not_or, Decidable.not_not] at h
  obtain ⟨hlow, hletters⟩ := h
  simp only [not_or] at hletters
  have hquote : c ≠ quote := by
    rintro rfl
    exact absurd hlow (by decide)
  have hbackslash : c ≠ backslash := by
    rintro rfl
    exact absurd hlow (by decide)
  rw [escapeByte, if_neg hquote, if_neg hbackslash, if_neg hletters.1, if_neg hletters.2.2.2.1,
    if_neg hletters.2.2.1, if_neg hletters.2.2.2.2, if_neg hletters.2.1, if_pos hlow]
  exact parseChars_escape result pos 0x75 _

/-- **The characters of a string** are read back, up to its closing quote, exactly if all of them are plain. -/
theorem parseChars_escapeString (str result rest : Text) (pos : Nat) :
    (PlainText str → ∃ pos', parseChars result pos (escapeString str ++ quote :: rest) =
        .ok (result ++ str, ⟨pos', rest⟩)) ∧
      (¬ PlainText str → parseChars result pos (escapeString str ++ quote :: rest) = .error invalidEscape) := by
  induction str generalizing result pos with
  | nil => exact ⟨fun _ => ⟨pos + 1, by rw [List.append_nil]; exact parseChars_quote _ _ _⟩, fun h => absurd (List.forall_mem_nil _) h⟩
  | cons c str ih =>
      have hsplit : escapeString (c :: str) ++ quote :: rest = escapeByte c ++ (escapeString str ++ quote :: rest) := by
        rw [escapeString, List.flatMap_cons, List.append_assoc]
        rfl
      have hcons : PlainText (c :: str) ↔ Plain c ∧ PlainText str := List.forall_mem_cons
      rw [hsplit]
      by_cases hc : Plain c
      · obtain ⟨pos', hstep⟩ := parseChars_plain hc result pos (escapeString str ++ quote :: rest)
        obtain ⟨hgood, hbad⟩ := ih (result ++ [c]) pos'
        rw [List.append_assoc, List.singleton_append] at hgood
        rw [hstep]
        exact ⟨fun h => hgood (hcons.mp h).2, fun h => hbad fun hstr => h (hcons.mpr ⟨hc, hstr⟩)⟩
      · exact ⟨fun h => absurd (hcons.mp h).1 hc, fun _ => parseChars_not_plain hc _ _ _⟩

/-- How a string is written. -/
def quoted (str : Text) : Text := [quote] ++ escapeString str ++ [quote]

theorem gives_parseString (hw : Spaces w) (str : Text) :
    Gives invalidEscape parseString (w ++ quoted str) Anything (PlainText str) str := by
  have hrest : Gives invalidEscape (fun parser => parseChars [] parser.pos parser.rest) (escapeString str ++ [quote])
      Anything (PlainText str) str := by
    refine ⟨fun h pos tail _ => ?_, fun h pos tail _ => ?_⟩
    · rw [List.append_assoc]
      exact (parseChars_escapeString str [] tail pos).1 h
    · rw [List.append_assoc]
      exact (parseChars_escapeString str [] tail pos).2 h
  have hboth := (gives_expect hw (by decide : isSpace quote = false) "Expected '\"' at position ").seq
    (f := fun _ => fun parser => parseChars [] parser.pos parser.rest) hrest fun _ _ => trivial
  rw [quoted, ← List.append_assoc, ← List.append_assoc, List.append_assoc _ _ [quote]]
  exact hboth

/-! ## Numbers and booleans -/

theorem isDigit_ofNat {k : Nat} (hk : k < 10) :
    isDigit (UInt8.ofNat (0x30 + k)) = true ∧ (UInt8.ofNat (0x30 + k)).toNat - 0x30 = k := by
  have hnat : (UInt8.ofNat (0x30 + k)).toNat = 0x30 + k := UInt8.toNat_ofNat_of_lt' (by show _ < 256; omega)
  refine ⟨?_, by omega⟩
  rw [isDigit, Bool.and_eq_true, decide_eq_true_eq, decide_eq_true_eq, UInt8.le_iff_toNat_le, UInt8.le_iff_toNat_le, hnat]
  show 48 ≤ 48 + k ∧ 48 + k ≤ 57
  omega

theorem isDigit_of_mem_decimal {n : Nat} : ∀ d ∈ decimal n, isDigit d = true := by
  induction n using decimal.induct with
  | case1 n hn =>
      rw [decimal, if_pos hn]
      exact List.forall_mem_singleton.mpr (isDigit_ofNat hn).1
  | case2 n hn ih =>
      rw [decimal, if_neg hn]
      exact List.forall_mem_append.mpr ⟨ih, List.forall_mem_singleton.mpr (isDigit_ofNat (Nat.mod_lt n (by decide))).1⟩

theorem decimal_ne_nil (n : Nat) : decimal n ≠ [] := by
  rw [decimal]
  split
  case isTrue => nofun
  case isFalse => exact List.append_ne_nil_of_right_ne_nil _ nofun

theorem foldl_decimal (n : Nat) : (decimal n).foldl (fun n d => 10 * n + (d.toNat - 0x30)) 0 = n := by
  induction n using decimal.induct with
  | case1 n hn =>
      rw [decimal, if_pos hn, List.foldl_cons, List.foldl_nil, (isDigit_ofNat hn).2, Nat.mul_zero, Nat.zero_add]
  | case2 n hn ih =>
      rw [decimal, if_neg hn, List.foldl_append, ih, List.foldl_cons, List.foldl_nil,
        (isDigit_ofNat (Nat.mod_lt n (by decide))).2]
      exact Nat.div_add_mod n 10

theorem isSpace_of_isDigit (h : isDigit c = true) : isSpace c = false := by
  rw [isDigit, Bool.and_eq_true, decide_eq_true_eq] at h
  have hne : ∀ d : UInt8, d < 0x30 → (c == d) = false := fun d hd =>
    beq_false_of_ne fun heq => absurd h.1 (UInt8.not_le.mpr (heq ▸ hd))
  rw [isSpace, hne _ (by decide), hne _ (by decide), hne _ (by decide), hne _ (by decide)]
  rfl

/-- **A number** is read back, up to what follows a value. -/
theorem gives_parseNumber (hw : Spaces w) {n : Nat} (hn : n < 2 ^ 64) :
    Gives invalidEscape parseNumber (w ++ decimal n) FollowsValue True (UInt64.ofNat n) := by
  refine ⟨fun _ pos tail htail => ?_, fun h => absurd trivial h⟩
  obtain ⟨d, rest, hdecimal⟩ := List.exists_cons_of_ne_nil (decimal_ne_nil n)
  have hdigit : isDigit d = true := isDigit_of_mem_decimal d (by rw [hdecimal]; exact List.mem_cons_self)
  have hstop : tail.takeWhile isDigit = [] := by
    rcases htail with ⟨rest, rfl⟩ | ⟨rest, rfl⟩ <;> rfl
  have hdigits : (decimal n ++ tail).takeWhile isDigit = decimal n := by
    rw [List.takeWhile_append_of_pos isDigit_of_mem_decimal, hstop, List.append_nil]
  have hstoull : stoull false (decimal n) = .ok (UInt64.ofNat n) := by
    rw [stoull, if_neg (decimal_ne_nil n)]
    dsimp only
    rw [foldl_decimal, if_neg (Nat.not_le.mpr hn)]
    rfl
  have hskip : skipWhitespace ⟨pos, w ++ decimal n ++ tail⟩ = .ok ((), ⟨pos + w.length, decimal n ++ tail⟩) := by
    rw [List.append_assoc, hdecimal, List.cons_append]
    exact skipWhitespace_eq hw (isSpace_of_isDigit hdigit) pos _
  have hsign : tryMatch 0x2D ⟨pos + w.length, decimal n ++ tail⟩ =
      .ok (false, ⟨pos + w.length, decimal n ++ tail⟩) := by
    have hne : d ≠ 0x2D := by
      rintro rfl
      exact absurd hdigit (by decide)
    have hspaces : skipWhitespace ⟨pos + w.length, d :: (rest ++ tail)⟩ =
        .ok ((), ⟨pos + w.length, d :: (rest ++ tail)⟩) :=
      skipWhitespace_eq spaces_nil (isSpace_of_isDigit hdigit) (pos + w.length) (rest ++ tail)
    rw [hdecimal, List.cons_append, tryMatch, bind_ok hspaces]
    exact if_neg hne
  refine ⟨pos + w.length + (decimal n).length, ?_⟩
  rw [parseNumber, bind_ok hskip, bind_ok hsign]
  dsimp only
  rw [hdigits, hstoull, List.drop_left]

/-- **A boolean** is read back. -/
theorem gives_parseBool (hw : Spaces w) (b : Bool) :
    Gives invalidEscape parseBool (w ++ if b then text "true" else text "false") Anything True b := by
  refine ⟨fun _ pos tail _ => ?_, fun h => absurd trivial h⟩
  cases b with
  | true =>
      have hskip := skipWhitespace_eq hw (by decide : isSpace 0x74 = false) pos ([0x72, 0x75, 0x65] ++ tail)
      refine ⟨pos + w.length + 4, ?_⟩
      rw [List.append_assoc]
      exact bind_ok hskip
  | false =>
      have hskip := skipWhitespace_eq hw (by decide : isSpace 0x66 = false) pos ([0x61, 0x6C, 0x73, 0x65] ++ tail)
      refine ⟨pos + w.length + 5, ?_⟩
      rw [List.append_assoc]
      exact bind_ok hskip

/-! ## Objects and arrays -/

/-- A line break and the indentation of a level. -/
def line (level : Nat) : Text := newline :: List.replicate (2 * level) space

/-- The lines of the items of an object or an array, itself at a level. -/
def layoutAt (level : Nat) : Layout UInt8 := { indent := line (level + 1), comma := [comma], close := line level }

def objectText (level : Nat) (members : List Text) : Text := [0x7B] ++ ((layoutAt level).lay members ++ [0x7D])

def arrayText (level : Nat) (elements : List Text) : Text := [0x5B] ++ ((layoutAt level).lay elements ++ [0x5D])

theorem spaces_line : Spaces (line level) :=
  List.forall_mem_cons.mpr ⟨rfl, fun _ hc => List.eq_of_mem_replicate hc ▸ rfl⟩

/-- What delimits the items of an object, or of an array of objects. -/
theorem delimits {atEnd : Parser Bool} {starts closes : UInt8}
    (hatEnd : ∀ {w c}, Spaces w → isSpace c = false → Gives invalidEscape atEnd w (StartsWith c) True (c == closes))
    (hstarts : isSpace starts = false) (hcloses : isSpace closes = false) (hne : (starts == closes) = false)
    (hcomma : closes ≠ comma) :
    Delimits invalidEscape (layoutAt level) atEnd tryConsumeComma (StartsWith starts) (StartsWith closes) := by
  have hself : (closes == closes) = true := beq_self_eq_true closes
  refine ⟨?_, ?_, ?_, ?_, ?_⟩
  · exact hne ▸ hatEnd (spaces_line _) hstarts
  · exact hself ▸ hatEnd (spaces_line _) hcloses
  · exact hself ▸ hatEnd spaces_nil hcloses
  · exact gives_tryMatch spaces_nil rfl
  · exact gives_tryMatch_other (spaces_line _) hcloses hcomma

theorem followsValue_comma (tail : Text) : FollowsValue ((layoutAt level).comma ++ tail) :=
  .inl ⟨tail, rfl⟩

theorem followsValue_close (tail : Text) : FollowsValue ((layoutAt level).close ++ tail) :=
  .inr ⟨_, rfl⟩

variable {α : Type}

/-- A member, with what is to be read of it. -/
def Reads (readMember : Text → α → Parser α) (i : Item UInt8 α) : Prop :=
  (∀ tail, StartsWith quote (i.text ++ tail)) ∧
    ∀ config, Gives invalidEscape (do readMember (← parseKey) config) i.text FollowsValue i.ok (i.update config)

variable {readMember : Text → α → Parser α}

/-- **An object** gives what its members give, in their order. -/
theorem gives_readObject (hw : Spaces w) (level : Nat) {items : List (Item UInt8 α)}
    (hitems : ∀ i ∈ items, Reads readMember i) (config : α) :
    Gives invalidEscape (readObject readMember config) (w ++ objectText level (items.map Item.text)) Anything
      (∀ i ∈ items, i.ok) (items.foldl (fun config i => i.update config) config) := by
  have hloop : Gives _ (readItems _ _ JsonError.stuck _ _) _ _ _ _ := gives_readItems
    (delimits level (fun hw hc => (gives_peek hw hc).map (· == 0x7D)) rfl rfl rfl (by decide)) (List.cons_ne_nil _ _)
    (followsValue_comma level) (fun tail _ => followsValue_close level tail) hitems config
  have hend := hloop.bind (f := fun config => do expectObjectEnd; return config)
    ((gives_expect spaces_nil (by decide : isSpace 0x7D = false) "Expected '\x7d' at position ").map fun _ => _)
    fun tail _ => ⟨tail, rfl⟩
  have hall := (gives_expect hw (by decide : isSpace 0x7B = false) "Expected '\x7b' at position ").seq
    (f := fun _ => do
      let config ← readItems isObjectEnd tryConsumeComma .stuck (fun config => do readMember (← parseKey) config) config
      expectObjectEnd
      return config) hend fun _ _ => trivial
  rw [objectText, ← List.append_assoc]
  exact hall.congr (iff_of_eq (and_true _))

/-- **An array** gives its elements, after those there are. -/
theorem gives_readArray (hw : Spaces w) (level : Nat) {element : Parser α} {write : α → Text} {ok : α → Prop}
    {elements : List α} (helements : ∀ x ∈ elements, (∀ tail, StartsWith 0x7B (write x ++ tail)) ∧
      Gives invalidEscape element (write x) Anything (ok x) x) (before : List α) :
    Gives invalidEscape (readArray element before) (w ++ arrayText level (elements.map write)) Anything
      (∀ x ∈ elements, ok x) (before ++ elements) := by
  let items : List (Item UInt8 (List α)) := elements.map fun x => ⟨write x, ok x, (· ++ [x])⟩
  have htexts : items.map Item.text = elements.map write := List.map_map
  have hfold : ∀ before : List α, items.foldl (fun elements i => i.update elements) before = before ++ elements := by
    intro before
    show (elements.map _).foldl _ before = _
    rw [List.foldl_map]
    clear helements htexts items
    induction elements generalizing before with
    | nil => exact (List.append_nil before).symm
    | cons x elements ih => rw [List.foldl_cons, ih, List.append_assoc, List.singleton_append]
  have hitems : ∀ i ∈ items, (∀ tail, StartsWith 0x7B (i.text ++ tail)) ∧ ∀ before, Gives invalidEscape
      (element >>= fun x => pure (before ++ [x])) i.text Anything i.ok (i.update before) := by
    intro i hi
    obtain ⟨x, hx, rfl⟩ := List.mem_map.mp hi
    exact ⟨(helements x hx).1, fun before => (helements x hx).2.map (before ++ [·])⟩
  have hloop : Gives _ (readItems _ _ JsonError.stuck _ _) _ _ _ _ := gives_readItems
    (delimits level (fun hw hc => (gives_peek hw hc).map (· == 0x5D)) rfl rfl rfl (by decide)) (List.cons_ne_nil _ _)
    (fun _ => trivial) (fun _ _ => trivial) hitems before
  rw [htexts, hfold] at hloop
  have hend := hloop.bind (f := fun elements => do expectArrayEnd; return elements)
    ((gives_expect spaces_nil (by decide : isSpace 0x5D = false) "Expected ']' at position ").map fun _ => _)
    fun tail _ => ⟨tail, rfl⟩
  have hall := (gives_expect hw (by decide : isSpace 0x5B = false) "Expected '[' at position ").seq
    (f := fun _ => do
      let elements ← readItems isArrayEnd tryConsumeComma .stuck
        (fun elements => do return elements ++ [← element]) before
      expectArrayEnd
      return elements) hend fun _ _ => trivial
  rw [arrayText, ← List.append_assoc]
  exact hall.congr ((iff_of_eq (and_true _)).trans List.forall_mem_map)

/-! ## Members -/

/-- How a member is written. -/
def member (key value : Text) : Text := quoted key ++ [0x3A] ++ ([space] ++ value)

theorem gives_parseKey {key : Text} (hkey : PlainText key) :
    Gives invalidEscape parseKey (quoted key ++ [0x3A]) Anything True key := by
  have hboth := (gives_parseString spaces_nil key).bind (f := fun key => do
      expect 0x3A "Expected ':' after key at position "
      return key)
    ((gives_expect spaces_nil (by decide : isSpace 0x3A = false) "Expected ':' after key at position ").map fun _ => key)
    fun _ _ => trivial
  exact hboth.congr ⟨fun _ => trivial, fun _ => ⟨hkey, trivial⟩⟩

theorem reads_member {key value : Text} (hkey : PlainText key) {ok : Prop} {update : α → α}
    (h : ∀ config, Gives invalidEscape (readMember key config) ([space] ++ value) FollowsValue ok (update config)) :
    Reads readMember ⟨member key value, ok, update⟩ :=
  ⟨fun _ => ⟨_, rfl⟩, fun config => (gives_parseKey hkey).seq (h config) fun _ _ => trivial⟩

def stringItem (key str : Text) (set : Text → α → α) : Item UInt8 α := ⟨member key (quoted str), PlainText str, set str⟩

def numberItem (key : Text) (n : Nat) (set : UInt64 → α → α) : Item UInt8 α :=
  ⟨member key (decimal n), True, set (UInt64.ofNat n)⟩

def boolItem (key : Text) (b : Bool) (set : Bool → α → α) : Item UInt8 α :=
  ⟨member key (if b then text "true" else text "false"), True, set b⟩

variable {key : Text}

theorem reads_string (hkey : PlainText key) (str : Text) {set : Text → α → α}
    (hread : ∀ config, readMember key config = parseString >>= fun str => pure (set str config)) :
    Reads readMember (stringItem key str set) := by
  refine reads_member hkey fun config => ?_
  rw [hread]
  exact ((gives_parseString spaces_space str).map (set · config)).weaken fun _ _ => trivial

theorem reads_number (hkey : PlainText key) {n : Nat} (hn : n < 2 ^ 64) {set : UInt64 → α → α}
    (hread : ∀ config, readMember key config = parseNumber >>= fun n => pure (set n config)) :
    Reads readMember (numberItem key n set) := by
  refine reads_member hkey fun config => ?_
  rw [hread]
  exact (gives_parseNumber spaces_space hn).map (set · config)

theorem reads_bool (hkey : PlainText key) (b : Bool) {set : Bool → α → α}
    (hread : ∀ config, readMember key config = parseBool >>= fun b => pure (set b config)) :
    Reads readMember (boolItem key b set) := by
  refine reads_member hkey fun config => ?_
  rw [hread]
  exact ((gives_parseBool spaces_space b).map (set · config)).weaken fun _ _ => trivial

end GuideXOS.Config
