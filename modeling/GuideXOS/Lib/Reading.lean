/-!
# `Reading` — what a reader makes of a text that was written for it

A reader moves a cursor forward over a text and may throw. `Gives` says what it does on one piece of text, whatever
follows that meets a condition: it consumes the piece and returns a value, or it throws a known error.
`Gives.bind` composes pieces, and `gives_untilEnd` is the rule for a loop that reads laid-out items up to a closing
token.
-/

namespace Lib.Reading

variable {ε τ β β' γ : Type _}

/-- How far a text is read, and what is left of it. -/
structure Cursor (τ : Type _) where
  pos : Nat
  rest : List τ

abbrev Reader (ε τ β : Type _) := StateT (Cursor τ) (Except ε) β

/-- **One piece of text.** Where `ok` holds the reader consumes the piece and returns `value`; elsewhere it throws
    `e`. What follows the piece meets `Follow`. -/
structure Gives (e : ε) (r : Reader ε τ β) (text : List τ) (Follow : List τ → Prop) (ok : Prop) (value : β) :
    Prop where
  good : ok → ∀ pos tail, Follow tail → ∃ pos', r ⟨pos, text ++ tail⟩ = .ok (value, ⟨pos', tail⟩)
  bad : ¬ ok → ∀ pos tail, Follow tail → r ⟨pos, text ++ tail⟩ = .error e

variable {e : ε} {r : Reader ε τ β} {f : β → Reader ε τ β'} {text text' : List τ} {Follow Follow' : List τ → Prop}
  {ok ok' : Prop} {value : β} {value' : β'}

theorem bind_ok {cursor cursor' : Cursor τ} (h : r cursor = .ok (value, cursor')) :
    (r >>= f) cursor = f value cursor' := by
  show (r cursor >>= fun p => f p.1 p.2) = _
  rw [h]
  rfl

theorem bind_error {cursor : Cursor τ} (h : r cursor = .error e) : (r >>= f) cursor = .error e := by
  show (r cursor >>= fun p => f p.1 p.2) = _
  rw [h]
  rfl

theorem gives_pure (value : β) : Gives e (pure value : Reader ε τ β) [] Follow True value :=
  ⟨fun _ pos _ _ => ⟨pos, rfl⟩, fun h => absurd trivial h⟩

/-- **Two pieces**, one after the other. -/
theorem Gives.bind (h : Gives e r text Follow ok value) (h' : Gives e (f value) text' Follow' ok' value')
    (hfollow : ∀ tail, Follow' tail → Follow (text' ++ tail)) :
    Gives e (r >>= f) (text ++ text') Follow' (ok ∧ ok') value' := by
  constructor
  · rintro ⟨hok, hok'⟩ pos tail htail
    obtain ⟨pos', hread⟩ := h.good hok pos (text' ++ tail) (hfollow tail htail)
    rw [List.append_assoc, bind_ok hread]
    exact h'.good hok' pos' tail htail
  · intro hbad pos tail htail
    rw [List.append_assoc]
    by_cases hok : ok
    · obtain ⟨pos', hread⟩ := h.good hok pos (text' ++ tail) (hfollow tail htail)
      rw [bind_ok hread]
      exact h'.bad (fun hok' => hbad ⟨hok, hok'⟩) pos' tail htail
    · exact bind_error (h.bad hok pos (text' ++ tail) (hfollow tail htail))

/-- A piece that always is as it should be. -/
theorem Gives.seq (h : Gives e r text Follow True value) (h' : Gives e (f value) text' Follow' ok' value')
    (hfollow : ∀ tail, Follow' tail → Follow (text' ++ tail)) :
    Gives e (r >>= f) (text ++ text') Follow' ok' value' := by
  have hboth := h.bind h' hfollow
  rw [true_and] at hboth
  exact hboth

/-- The value, passed on. -/
theorem Gives.map (h : Gives e r text Follow ok value) (g : β → β') :
    Gives e (r >>= fun b => pure (g b)) text Follow ok (g value) := by
  have hboth := h.bind (f := fun b => pure (g b)) (gives_pure (g value) : Gives e _ [] Follow True _) fun _ htail => htail
  rw [List.append_nil, and_true] at hboth
  exact hboth

theorem Gives.weaken (h : Gives e r text Follow ok value) (hfollow : ∀ tail, Follow' tail → Follow tail) :
    Gives e r text Follow' ok value :=
  ⟨fun hok pos tail htail => h.good hok pos tail (hfollow tail htail),
    fun hbad pos tail htail => h.bad hbad pos tail (hfollow tail htail)⟩

theorem Gives.congr (h : Gives e r text Follow ok value) (hok : ok ↔ ok') : Gives e r text Follow ok' value :=
  ⟨fun h' => h.good (hok.mpr h'), fun h' => h.bad fun h'' => h' (hok.mp h'')⟩

/-! ## Items up to a closing token -/

/-- Reads items until `atEnd`, with what may separate them after each; `stuck` when the fuel runs out. -/
def untilEnd (atEnd separate : Reader ε τ Bool) (stuck : ε) (item : γ → Reader ε τ γ) : Nat → γ → Reader ε τ γ
  | 0, _ => throw stuck
  | n + 1, x => do
      if ← atEnd then return x
      let y ← item x
      let _ ← separate
      untilEnd atEnd separate stuck item n y

/-- The loop, with as much fuel as there is text. -/
def readItems (atEnd separate : Reader ε τ Bool) (stuck : ε) (item : γ → Reader ε τ γ) (x : γ) : Reader ε τ γ := do
  untilEnd atEnd separate stuck item ((← get).rest.length + 1) x

/-- What is written before an item, between items, and after the last. -/
structure Layout (τ : Type _) where
  indent : List τ
  comma : List τ
  close : List τ

/-- The items, laid out. -/
def Layout.lay (layout : Layout τ) : List (List τ) → List τ
  | [] => layout.close
  | text :: rest => layout.indent ++ (text ++ if rest = [] then layout.close else layout.comma ++ layout.lay rest)

/-- An item: how it is written, when it can be read, and what reading it changes. -/
structure Item (τ γ : Type _) where
  text : List τ
  ok : Prop
  update : γ → γ

/-- What a loop over items needs of the readers that delimit them. -/
structure Delimits (e : ε) (layout : Layout τ) (atEnd separate : Reader ε τ Bool) (Starts Closes : List τ → Prop) :
    Prop where
  start : Gives e atEnd layout.indent Starts True false
  close : Gives e atEnd layout.close Closes True true
  closed : Gives e atEnd [] Closes True true
  comma : Gives e separate layout.comma (fun _ => True) True true
  last : Gives e separate layout.close Closes True false

variable {layout : Layout τ} {atEnd separate : Reader ε τ Bool} {stuck : ε} {item : γ → Reader ε τ γ}
  {Starts Closes : List τ → Prop} {items : List (Item τ γ)}

/-- At the end the loop returns what it has. -/
theorem untilEnd_close {close : List τ} (h : Gives e atEnd close Closes True true) (n : Nat) (x : γ) :
    Gives e (untilEnd atEnd separate stuck item (n + 1) x) close Closes True x := by
  have hboth := h.seq (f := fun done => if done then pure x else do
    let y ← item x
    let _ ← separate
    untilEnd atEnd separate stuck item n y) (gives_pure x) fun _ htail => htail
  rw [List.append_nil] at hboth
  exact hboth

/-- **The loop** reads the items as they are laid out, and changes what each of them changes. -/
theorem gives_untilEnd (hd : Delimits e layout atEnd separate Starts Closes)
    (hcomma : ∀ tail, Follow (layout.comma ++ tail)) (hclose : ∀ tail, Closes tail → Follow (layout.close ++ tail))
    (hitems : ∀ i ∈ items, (∀ tail, Starts (i.text ++ tail)) ∧
      ∀ x, Gives e (item x) i.text Follow i.ok (i.update x)) {n : Nat} {x : γ} (hn : items.length < n) :
    Gives e (untilEnd atEnd separate stuck item n x) (layout.lay (items.map Item.text)) Closes
      (∀ i ∈ items, i.ok) (items.foldl (fun x i => i.update x) x) := by
  induction items generalizing n x with
  | nil =>
      obtain ⟨n, rfl⟩ := Nat.exists_eq_add_of_lt hn
      exact (untilEnd_close hd.close _ x).congr ⟨fun _ => List.forall_mem_nil _, fun _ => trivial⟩
  | cons i items ih =>
      obtain ⟨n, rfl⟩ : ∃ m, n = m + 1 := ⟨n - 1, by omega⟩
      obtain ⟨⟨hstarts, hread⟩, hrest⟩ := List.forall_mem_cons.mp hitems
      have hlength : items.length < n := Nat.lt_of_succ_lt_succ hn
      -- the item, what separates it from the next, and the rest of the loop
      have htail : Gives e (do let _ ← separate; untilEnd atEnd separate stuck item n (i.update x))
          (if items.map Item.text = [] then layout.close else layout.comma ++ layout.lay (items.map Item.text)) Closes
          (∀ i ∈ items, i.ok) (items.foldl (fun x i => i.update x) (i.update x)) := by
        split
        case isTrue hnil =>
          obtain rfl := List.map_eq_nil_iff.mp hnil
          obtain ⟨m, rfl⟩ : ∃ m, n = m + 1 := ⟨n - 1, by have := hlength; simp only [List.length_nil] at this; omega⟩
          have hlast := hd.last.seq (f := fun _ => untilEnd atEnd separate stuck item (m + 1) (i.update x))
            (untilEnd_close hd.closed m (i.update x)) fun _ htail => htail
          rw [List.append_nil] at hlast
          exact hlast.congr ⟨fun _ => List.forall_mem_nil _, fun _ => trivial⟩
        case isFalse =>
          exact hd.comma.seq (f := fun _ => untilEnd atEnd separate stuck item n (i.update x)) (ih hrest hlength)
            fun _ _ => trivial
      have hfollow : ∀ tail, Closes tail →
          Follow ((if items.map Item.text = [] then layout.close
            else layout.comma ++ layout.lay (items.map Item.text)) ++ tail) := by
        intro tail htail
        split
        case isTrue => exact hclose tail htail
        case isFalse =>
          rw [List.append_assoc]
          exact hcomma _
      have hall := hd.start.seq (f := fun done => if done then pure x else do
        let y ← item x
        let _ ← separate
        untilEnd atEnd separate stuck item n y) ((hread x).bind htail hfollow) fun tail _ => by
          rw [List.append_assoc]
          exact hstarts _
      rw [List.map_cons, Layout.lay]
      exact hall.congr List.forall_mem_cons.symm

theorem length_le_lay (hindent : layout.indent ≠ []) (texts : List (List τ)) :
    texts.length ≤ (layout.lay texts).length := by
  have hpos := List.length_pos_iff.mpr hindent
  induction texts with
  | nil => exact Nat.zero_le _
  | cons text texts ih =>
      rw [Layout.lay, List.length_append, List.length_append, List.length_cons]
      split
      case isTrue hnil =>
        rw [hnil, List.length_nil]
        omega
      case isFalse =>
        rw [List.length_append]
        omega

/-- **The loop never gets stuck**: there is more text than there are items. -/
theorem gives_readItems (hd : Delimits e layout atEnd separate Starts Closes) (hindent : layout.indent ≠ [])
    (hcomma : ∀ tail, Follow (layout.comma ++ tail)) (hclose : ∀ tail, Closes tail → Follow (layout.close ++ tail))
    (hitems : ∀ i ∈ items, (∀ tail, Starts (i.text ++ tail)) ∧
      ∀ x, Gives e (item x) i.text Follow i.ok (i.update x)) (x : γ) :
    Gives e (readItems atEnd separate stuck item x) (layout.lay (items.map Item.text)) Closes
      (∀ i ∈ items, i.ok) (items.foldl (fun x i => i.update x) x) := by
  have hfuel : ∀ tail : List τ, items.length < (layout.lay (items.map Item.text) ++ tail).length + 1 := by
    intro tail
    have hle := length_le_lay hindent (items.map Item.text)
    rw [List.length_map] at hle
    rw [List.length_append]
    omega
  exact ⟨fun hok pos tail htail => (gives_untilEnd hd hcomma hclose hitems (hfuel tail)).good hok pos tail htail,
    fun hbad pos tail htail => (gives_untilEnd hd hcomma hclose hitems (hfuel tail)).bad hbad pos tail htail⟩

end Lib.Reading
