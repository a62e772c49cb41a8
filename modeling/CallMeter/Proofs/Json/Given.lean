import CallMeter.Proofs.Json.ReadBack
import Mathlib.Data.List.Basic

/-!
# What a text gives

A text gives a value with all its members, those included that a later one of the same key
replaces: its tokens spell that value. What is read is the value settled, with each key of an
object once, where it came first and with what came last.

## Main definitions

* `spelling`: the tokens of a value, its members as they are given
* `settled`: a value with the last value for each key
* `Nested`: values nested no deeper than a number of levels
* `Gives`: a text gives a value
* `Token.Lexed`: tokens that a text can have
* `Reader.Opened`, `Reader.Consumed`: the tokens that a reader has read

## Main results

* `foldlM_spelling`: a spelled value is read as the value settled
* `lexed_of_tokens?`: the tokens of a text
* `Reader.Consumed.step`, `Reader.Consumed.run`: what has been read spells what the reader holds
* `parse?_eq_some_iff`: a text is read as the value that it gives, settled
-/

namespace CallMeter.Json

/-! ## Spelling and settling -/

mutual

/-- **The tokens of a value.** -/
def spelling : Json → List Token
  | .array items => .openArray :: ([.comma].intercalate (spellings items) ++ [.closeArray])
  | .object members =>
    .openObject :: ([.comma].intercalate (memberSpellings members) ++ [.closeObject])
  | .string s => [.text s]
  | .null => [.scalar .null]
  | .bool b => [.scalar (.bool b)]
  | .number n => [.scalar (.number n)]

/-- The tokens of each item. -/
def spellings : List Json → List (List Token)
  | [] => []
  | v :: r => spelling v :: spellings r

/-- The tokens of each member. -/
def memberSpellings : List (String × Json) → List (List Token)
  | [] => []
  | (k, v) :: r => (.text k :: .colon :: spelling v) :: memberSpellings r

end

mutual

/-- **A value settled**: each key of an object stands where it was given first, with the value
that was given last. -/
def settled : Json → Json
  | .array items => .array (settledItems items)
  | .object members => .object (Entries.ofList (settledMembers members))
  | v => v

/-- The items of an array, each settled. -/
def settledItems : List Json → List Json
  | [] => []
  | v :: r => settled v :: settledItems r

/-- The members of an object, each value settled. -/
def settledMembers : List (String × Json) → List (String × Json)
  | [] => []
  | (k, v) :: r => (k, settled v) :: settledMembers r

end

/-- **Values nested** at most `levels` deep. -/
inductive Nested : (levels : Nat) → Json → Prop
  | null {n : Nat} : Nested n .null
  | bool {n : Nat} (b : Bool) : Nested n (.bool b)
  | number {n : Nat} (x : Number) : Nested n (.number x)
  | string {n : Nat} (s : String) : Nested n (.string s)
  | array {n : Nat} {items : List Json} (h : ∀ v ∈ items, Nested n v) :
      Nested (n + 1) (.array items)
  | object {n : Nat} {members : List (String × Json)} (h : ∀ e ∈ members, Nested n e.2) :
      Nested (n + 1) (.object members)

/-- **A text gives a value**: its tokens spell it, and no more arrays and objects stand inside
each other than may be open. -/
def Gives (text : String) (v : Json) : Prop :=
  tokens? text.toList = some v.spelling ∧ v.Nested Reader.maxDepth

/-- A member with a comma after it. -/
def commaAfter (e : String × Json) : List Token :=
  .text e.1 :: .colon :: (e.2.spelling ++ [.comma])

theorem spellings_eq (items : List Json) : spellings items = items.map spelling := by
  induction items with
  | nil => rfl
  | cons v items ih => rw [spellings, ih, List.map_cons]

theorem memberSpellings_eq (members : List (String × Json)) :
    memberSpellings members = members.map fun e => .text e.1 :: .colon :: e.2.spelling := by
  induction members with
  | nil => rfl
  | cons e members ih => rw [memberSpellings, ih, List.map_cons]

theorem settledItems_eq (items : List Json) : settledItems items = items.map settled := by
  induction items with
  | nil => rfl
  | cons v items ih => rw [settledItems, ih, List.map_cons]

theorem settledMembers_eq (members : List (String × Json)) :
    settledMembers members = members.map fun e => (e.1, e.2.settled) := by
  induction members with
  | nil => rfl
  | cons e members ih => rw [settledMembers, ih, List.map_cons]

theorem subset_intercalate {α : Type} {sep l : List α} {ls : List (List α)} (h : l ∈ ls) :
    l ⊆ sep.intercalate ls := by
  induction ls with
  | nil => cases h
  | cons a ls ih =>
    cases ls with
    | nil =>
      rw [List.mem_singleton.mp h]
      simp [List.intercalate]
    | cons b ls =>
      rw [List.intercalate_cons_cons]
      rcases List.mem_cons.mp h with rfl | h
      · exact fun t ht => List.mem_append_left _ (List.mem_append_left _ ht)
      · exact fun t ht => List.mem_append_right _ (ih h ht)

theorem intercalate_concat {α : Type} (sep l : List α) (ls : List (List α)) :
    sep.intercalate (ls ++ [l]) = ls.flatMap (· ++ sep) ++ l := by
  induction ls with
  | nil => simp [List.intercalate]
  | cons a ls ih =>
    obtain ⟨b, r, e⟩ := List.exists_cons_of_ne_nil (List.append_ne_nil_of_right_ne_nil ls
      (List.cons_ne_nil l []))
    rw [List.cons_append, e, List.intercalate_cons_cons, ← e, ih, List.flatMap_cons]
    simp only [List.append_assoc]

theorem spelling_array_concat (items : List Json) (v : Json) :
    (Json.array (items ++ [v])).spelling =
      .openArray :: (items.flatMap (fun w => w.spelling ++ [.comma]) ++ v.spelling ++
        [.closeArray]) := by
  rw [spelling, spellings_eq, List.map_append, List.map_singleton, intercalate_concat,
    List.flatMap_map]

theorem spelling_object_concat (members : List (String × Json)) (k : String) (v : Json) :
    (Json.object (members ++ [(k, v)])).spelling =
      .openObject :: (members.flatMap commaAfter ++ .text k :: .colon :: v.spelling ++
        [.closeObject]) := by
  rw [spelling, memberSpellings_eq, List.map_append, List.map_singleton, intercalate_concat,
    List.flatMap_map]
  rfl

theorem settledItems_concat (items : List Json) (v : Json) :
    settledItems (items ++ [v]) = settledItems items ++ [v.settled] := by
  rw [settledItems_eq, List.map_append, List.map_singleton, settledItems_eq]

theorem settledMembers_concat (members : List (String × Json)) (k : String) (v : Json) :
    Entries.ofList (settledMembers (members ++ [(k, v)])) =
      Entries.put k v.settled (Entries.ofList (settledMembers members)) := by
  rw [settledMembers_eq, List.map_append, List.map_singleton, Entries.ofList, List.foldl_append,
    settledMembers_eq]
  rfl

/-! ## Reading what is spelled -/

section Reading

variable {stack : List Reader.Frame} {room : Nat}

/-- **A value that is read settled** wherever one is due and there is room for it. -/
def ReadsSettled (room : Nat) (v : Json) : Prop :=
  ∀ ⦃stack : List Reader.Frame⦄ ⦃mode : Reader.Mode⦄, stack.length + room ≤ Reader.maxDepth →
    mode.Due → v.spelling.foldlM Reader.step ⟨stack, mode⟩ = some ⟨stack, .after v.settled⟩

/-- Items that each have a comma after them. -/
theorem foldlM_items {items : List Json} (h : ∀ v ∈ items, ReadsSettled room v)
    (fits : stack.length + (room + 1) ≤ Reader.maxDepth) (rev : List Json) {mode : Reader.Mode}
    (hm : mode.Due) :
    ∃ mode' : Reader.Mode, mode'.Due ∧
      (items.flatMap fun w => w.spelling ++ [.comma]).foldlM Reader.step
          ⟨.items rev :: stack, mode⟩ =
        some ⟨.items ((settledItems items).reverse ++ rev) :: stack, mode'⟩ := by
  induction items generalizing rev mode with
  | nil => exact ⟨mode, hm, rfl⟩
  | cons v items ih =>
    obtain ⟨hv, hitems⟩ := List.forall_mem_cons.mp h
    have inside : (Reader.Frame.items rev :: stack).length + room ≤ Reader.maxDepth := by
      rw [List.length_cons]
      omega
    obtain ⟨mode', hm', rest⟩ := ih hitems (v.settled :: rev) (.inl rfl)
    refine ⟨mode', hm', ?_⟩
    rw [List.flatMap_cons, List.foldlM_append, List.foldlM_append, hv inside hm, settledItems,
      List.reverse_cons, List.append_assoc, List.singleton_append, ← rest]
    rfl

/-- A mode in which a key of an object with the given members is due. -/
def Reader.Mode.KeyDue (members : List (String × Json)) (mode : Reader.Mode) : Prop :=
  mode = .key members ∨ mode = .firstKey ∧ members = []

/-- A key where one is due, and the colon after it. -/
theorem foldlM_key {members : List (String × Json)} {mode : Reader.Mode}
    (hm : mode.KeyDue members) (k : String) (ts : List Token) :
    (Token.text k :: .colon :: ts).foldlM Reader.step ⟨stack, mode⟩ =
      ts.foldlM Reader.step ⟨.member members k :: stack, .value⟩ := by
  rcases hm with rfl | ⟨rfl, rfl⟩ <;> rfl

/-- Members that each have a comma after them. -/
theorem foldlM_members {members : List (String × Json)}
    (h : ∀ e ∈ members, ReadsSettled room e.2)
    (fits : stack.length + (room + 1) ≤ Reader.maxDepth) (before : List (String × Json))
    {mode : Reader.Mode} (hm : mode.KeyDue before) :
    ∃ mode' : Reader.Mode,
      mode'.KeyDue ((settledMembers members).foldl (fun es e => Entries.put e.1 e.2 es) before) ∧
      (members.flatMap commaAfter).foldlM Reader.step ⟨stack, mode⟩ = some ⟨stack, mode'⟩ := by
  induction members generalizing before mode with
  | nil => exact ⟨mode, hm, rfl⟩
  | cons e members ih =>
    obtain ⟨k, v⟩ := e
    obtain ⟨hv, hmembers⟩ := List.forall_mem_cons.mp h
    have inside : (Reader.Frame.member before k :: stack).length + room ≤ Reader.maxDepth := by
      rw [List.length_cons]
      omega
    obtain ⟨mode', hm', rest⟩ := ih hmembers (Entries.put k v.settled before) (.inl rfl)
    refine ⟨mode', hm', ?_⟩
    rw [List.flatMap_cons, commaAfter, List.cons_append, List.cons_append, foldlM_key hm,
      List.foldlM_append, List.foldlM_append, hv inside (.inl rfl), ← rest]
    rfl

theorem readsSettled_array {items : List Json} (h : ∀ v ∈ items, ReadsSettled room v) :
    ReadsSettled (room + 1) (.array items) := by
  intro stack mode fits hm
  have more : stack.length < Reader.maxDepth := by omega
  have opened : Reader.step ⟨stack, mode⟩ .openArray = some ⟨.items [] :: stack, .firstItem⟩ := by
    rw [step_of_due hm (by simp), Reader.valueStep, if_pos more]
  rcases List.eq_nil_or_concat items with rfl | ⟨items, v, rfl⟩
  · rw [spelling, List.foldlM_cons, opened]
    rfl
  · rw [List.concat_eq_append] at h ⊢
    obtain ⟨hitems, hv⟩ := List.forall_mem_append.mp h
    have inside : (Reader.Frame.items (settledItems items).reverse :: stack).length + room ≤
        Reader.maxDepth := by
      rw [List.length_cons]
      omega
    obtain ⟨mode', hm', before⟩ := foldlM_items hitems fits [] (.inr rfl)
    rw [List.append_nil] at before
    have same : (v.settled :: (settledItems items).reverse).reverse =
        settledItems (items ++ [v]) := by
      rw [List.reverse_cons, List.reverse_reverse, settledItems_concat]
    rw [spelling_array_concat, List.foldlM_cons, opened, Option.bind_eq_bind, Option.bind_some,
      List.foldlM_append, List.foldlM_append, before, Option.bind_eq_bind, Option.bind_some,
      hv v (List.mem_singleton_self v) inside hm', settled, ← same]
    rfl

theorem readsSettled_object {members : List (String × Json)}
    (h : ∀ e ∈ members, ReadsSettled room e.2) : ReadsSettled (room + 1) (.object members) := by
  intro stack mode fits hm
  have more : stack.length < Reader.maxDepth := by omega
  have opened : Reader.step ⟨stack, mode⟩ .openObject = some ⟨stack, .firstKey⟩ := by
    rw [step_of_due hm (by simp), Reader.valueStep, if_pos more]
  rcases List.eq_nil_or_concat members with rfl | ⟨members, ⟨k, v⟩, rfl⟩
  · rw [spelling, List.foldlM_cons, opened]
    rfl
  · rw [List.concat_eq_append] at h ⊢
    obtain ⟨hmembers, hv⟩ := List.forall_mem_append.mp h
    have inside : (Reader.Frame.member (Entries.ofList (settledMembers members)) k ::
        stack).length + room ≤ Reader.maxDepth := by
      rw [List.length_cons]
      omega
    obtain ⟨mode', hm', before⟩ := foldlM_members hmembers fits [] (.inr ⟨rfl, rfl⟩)
    have due : mode'.KeyDue (Entries.ofList (settledMembers members)) := hm'
    rw [spelling_object_concat, List.foldlM_cons, opened, Option.bind_eq_bind, Option.bind_some,
      List.append_assoc, List.foldlM_append, before, Option.bind_eq_bind, Option.bind_some,
      List.cons_append, List.cons_append, foldlM_key due, List.foldlM_append,
      hv _ (List.mem_singleton_self _) inside (.inl rfl), settled, settledMembers_concat]
    rfl

/-- **A spelled value is read settled** if there is room for it. -/
theorem foldlM_spelling {v : Json} (h : v.Nested room) : ReadsSettled room v := by
  induction h with
  | array h ih => exact readsSettled_array ih
  | object h ih => exact readsSettled_object ih
  | null | bool | number | string =>
    intro stack mode fits hm
    rw [spelling, List.foldlM_cons, step_of_due hm (by simp)]
    rfl

end Reading

/-! ## The tokens of a text -/

/-- **Tokens that a text can have**: brackets and separators, strings, and the scalars of words. -/
inductive Token.Lexed : Token → Prop
  | mark {c : Char} {t : Token} (h : Lexer.mark? c = some t) : t.Lexed
  | text (s : String) : Lexed (.text s)
  | scalar {w : List Char} {v : Json} (h : wordScalar? w = some v) : Lexed (.scalar v)

theorem Token.Lexed.exists_word {v : Json} (h : (Token.scalar v).Lexed) :
    ∃ w, wordScalar? w = some v := by
  cases h with
  | mark h =>
    unfold Lexer.mark? at h
    split at h <;> cases h
  | scalar h => exact ⟨_, h⟩

namespace Lexer

variable {m m' : Lexer} {c : Char} {done : List Token}

theorem lexed_of_gapStep (h : gapStep done c = some m') (held : ∀ t ∈ done, t.Lexed) :
    ∀ t ∈ m'.done, t.Lexed := by
  unfold gapStep at h
  split_ifs at h
  · cases h
    exact held
  · cases h
    exact held
  · cases h
    exact held
  · obtain ⟨t, ht, rfl⟩ := Option.map_eq_some_iff.mp h
    exact List.forall_mem_cons.mpr ⟨.mark ht, held⟩

/-- **A character adds no other tokens.** -/
theorem lexed_of_step (h : m.step c = some m') (held : ∀ t ∈ m.done, t.Lexed) :
    ∀ t ∈ m'.done, t.Lexed := by
  obtain ⟨done, place⟩ := m
  cases place with
  | gap => exact lexed_of_gapStep h held
  | word w =>
    simp only [step] at h
    split_ifs at h
    · cases h
      exact held
    · obtain ⟨v, hv, h⟩ := Option.bind_eq_some_iff.mp h
      exact lexed_of_gapStep h (List.forall_mem_cons.mpr ⟨.scalar hv, held⟩)
  | string s =>
    simp only [step] at h
    split_ifs at h
    · cases h
      exact List.forall_mem_cons.mpr ⟨.text _, held⟩
    · cases h
      exact held
    · cases h
      exact held
  | escape s =>
    simp only [step] at h
    split_ifs at h
    · cases h
      exact held
    · obtain ⟨e, -, rfl⟩ := Option.map_eq_some_iff.mp h
      exact held
  | unit s leading value digits =>
    obtain ⟨d, -, h⟩ := Option.bind_eq_some_iff.mp h
    dsimp only at h
    split_ifs at h
    · obtain ⟨place, -, h⟩ := Option.bind_eq_some_iff.mp h
      cases h
      exact held
    · cases h
      exact held
  | pair s leading =>
    simp only [step] at h
    split_ifs at h
    cases h
    exact held
  | pairEscape s leading =>
    simp only [step] at h
    split_ifs at h
    cases h
    exact held

end Lexer

/-- **The tokens of a text** are of these kinds. -/
theorem lexed_of_tokens? {cs : List Char} {ts : List Token} (h : tokens? cs = some ts) :
    ∀ t ∈ ts, t.Lexed := by
  obtain ⟨m, read, finish⟩ := Option.bind_eq_some_iff.mp h
  have run (cs : List Char) (m : Lexer) {m' : Lexer} (read : cs.foldlM Lexer.step m = some m')
      (held : ∀ t ∈ m.done, t.Lexed) : ∀ t ∈ m'.done, t.Lexed := by
    induction cs generalizing m with
    | nil =>
      cases read
      exact held
    | cons c cs ih =>
      rw [List.foldlM_cons] at read
      obtain ⟨next, one, rest⟩ := Option.bind_eq_some_iff.mp read
      exact ih next rest (Lexer.lexed_of_step one held)
  have held := run cs _ read (List.forall_mem_nil _)
  unfold Lexer.finish at finish
  split at finish
  · cases finish
    exact fun t ht => held t (List.mem_reverse.mp ht)
  · obtain ⟨v, hv, rfl⟩ := Option.map_eq_some_iff.mp finish
    intro t ht
    rcases List.mem_cons.mp (List.mem_reverse.mp ht) with rfl | ht
    · exact .scalar hv
    · exact held t ht
  · cases finish

/-! ## What has been read -/

theorem atom_of_wordScalar? {w : List Char} {v : Json} (h : wordScalar? w = some v) :
    v.spelling = [.scalar v] ∧ v.settled = v ∧ ∀ n, v.Nested n := by
  unfold wordScalar? at h
  split at h
  · cases h
    exact ⟨rfl, rfl, fun _ => .null⟩
  · cases h
    exact ⟨rfl, rfl, fun _ => .bool true⟩
  · cases h
    exact ⟨rfl, rfl, fun _ => .bool false⟩
  · obtain ⟨x, -, rfl⟩ := Option.map_eq_some_iff.mp h
    exact ⟨rfl, rfl, fun _ => .number x⟩

namespace Reader

/-- **Open arrays and objects** with the tokens that opened them and room for `room` more. -/
inductive Opened : List Token → List Frame → (room : Nat) → Prop
  | nil : Opened [] [] maxDepth
  | items {ts : List Token} {stack : List Frame} {room : Nat} {items : List Json}
      (outer : Opened ts stack (room + 1)) (h : ∀ v ∈ items, Nested room v) :
      Opened (ts ++ .openArray :: items.flatMap fun v => v.spelling ++ [.comma])
        (.items (settledItems items).reverse :: stack) room
  | member {ts : List Token} {stack : List Frame} {room : Nat} {members : List (String × Json)}
      {key : String} (outer : Opened ts stack (room + 1)) (h : ∀ e ∈ members, Nested room e.2) :
      Opened (ts ++ .openObject :: (members.flatMap commaAfter ++ [.text key, .colon]))
        (.member (Entries.ofList (settledMembers members)) key :: stack) room

/-- **What has been read** inside open arrays and objects. -/
inductive Consumed : List Token → Reader → Prop
  | value {ts : List Token} {stack : List Frame} {room : Nat} (outer : Opened ts stack room) :
      Consumed ts ⟨stack, .value⟩
  | firstItem {ts : List Token} {stack : List Frame} {room : Nat}
      (outer : Opened ts stack (room + 1)) :
      Consumed (ts ++ [.openArray]) ⟨.items [] :: stack, .firstItem⟩
  | firstKey {ts : List Token} {stack : List Frame} {room : Nat}
      (outer : Opened ts stack (room + 1)) : Consumed (ts ++ [.openObject]) ⟨stack, .firstKey⟩
  | key {ts : List Token} {stack : List Frame} {room : Nat} {members : List (String × Json)}
      (outer : Opened ts stack (room + 1)) (h : ∀ e ∈ members, Nested room e.2) :
      Consumed (ts ++ .openObject :: members.flatMap commaAfter)
        ⟨stack, .key (Entries.ofList (settledMembers members))⟩
  | colon {ts : List Token} {stack : List Frame} {room : Nat} {members : List (String × Json)}
      {key : String} (outer : Opened ts stack (room + 1)) (h : ∀ e ∈ members, Nested room e.2) :
      Consumed (ts ++ .openObject :: (members.flatMap commaAfter ++ [.text key]))
        ⟨stack, .colon (Entries.ofList (settledMembers members)) key⟩
  | after {ts : List Token} {stack : List Frame} {room : Nat} {v : Json}
      (outer : Opened ts stack room) (h : Nested room v) :
      Consumed (ts ++ v.spelling) ⟨stack, .after v.settled⟩

variable {ts : List Token} {stack : List Frame} {room : Nat} {m m' : Reader} {t : Token}

theorem Opened.length_add (h : Opened ts stack room) : stack.length + room = maxDepth := by
  induction h with
  | nil => rfl
  | items outer h ih =>
    rw [List.length_cons]
    omega
  | member outer h ih =>
    rw [List.length_cons]
    omega

/-- Where one more may be opened, there is room. -/
theorem Opened.exists_room (h : Opened ts stack room) (more : stack.length < maxDepth) :
    ∃ inner, Opened ts stack (inner + 1) := by
  have total := h.length_add
  obtain ⟨inner, rfl⟩ : ∃ inner, room = inner + 1 := ⟨room - 1, by omega⟩
  exact ⟨inner, h⟩

theorem forall_mem_concat {α : Type} {P : α → Prop} {l : List α} {a : α} (h : ∀ b ∈ l, P b)
    (ha : P a) : ∀ b ∈ l ++ [a], P b :=
  List.forall_mem_append.mpr ⟨h, List.forall_mem_singleton.mpr ha⟩

theorem Consumed.valueStep (outer : Opened ts stack room) (ht : t.Lexed)
    (h : valueStep stack t = some m') : Consumed (ts ++ [t]) m' := by
  unfold Reader.valueStep at h
  split at h
  · split_ifs at h with more
    cases h
    obtain ⟨inner, outer⟩ := outer.exists_room more
    exact .firstItem outer
  · split_ifs at h with more
    cases h
    obtain ⟨inner, outer⟩ := outer.exists_room more
    exact .firstKey outer
  · next s =>
    cases h
    exact .after outer (.string s)
  · next v =>
    cases h
    obtain ⟨w, hw⟩ := ht.exists_word
    obtain ⟨spelled, same, nested⟩ := atom_of_wordScalar? hw
    have read := Consumed.after outer (nested room)
    rwa [spelled, same] at read
  · cases h

theorem Consumed.afterStep {v : Json} (outer : Opened ts stack room) (hv : Nested room v)
    (h : afterStep v.settled stack t = some m') : Consumed (ts ++ v.spelling ++ [t]) m' := by
  unfold Reader.afterStep at h
  split at h
  · next rev stack =>
    cases h
    cases outer with
    | @items ts _ _ items outer held =>
      have read := Consumed.value (.items outer (forall_mem_concat held hv))
      rw [settledItems_concat] at read
      simpa using read
  · next rev stack =>
    cases h
    cases outer with
    | @items ts _ _ items outer held =>
      have read := Consumed.after outer (.array (forall_mem_concat held hv))
      rw [spelling_array_concat, settled, settledItems_concat] at read
      simpa using read
  · next members key stack =>
    cases h
    cases outer with
    | @member ts _ _ members _ outer held =>
      have nested : ∀ e ∈ members ++ [(key, v)], Nested _ e.2 := forall_mem_concat held hv
      have read := Consumed.key outer nested
      rw [settledMembers_concat] at read
      simpa [commaAfter] using read
  · next members key stack =>
    cases h
    cases outer with
    | @member ts _ _ members _ outer held =>
      have nested : ∀ e ∈ members ++ [(key, v)], Nested _ e.2 := forall_mem_concat held hv
      have read := Consumed.after outer (.object nested)
      rw [spelling_object_concat, settled, settledMembers_concat] at read
      simpa using read
  · cases h

/-- **A token is added to what has been read.** -/
theorem Consumed.step (read : Consumed ts m) (ht : t.Lexed) (h : m.step t = some m') :
    Consumed (ts ++ [t]) m' := by
  cases read with
  | value outer => exact Consumed.valueStep outer ht h
  | firstItem outer =>
    cases t with
    | closeArray =>
      cases h
      rw [List.append_assoc]
      exact .after outer (.array (List.forall_mem_nil _))
    | _ => exact Consumed.valueStep (.items outer (List.forall_mem_nil _)) ht h
  | firstKey outer =>
    cases t with
    | closeObject =>
      cases h
      rw [List.append_assoc]
      exact .after outer (.object (List.forall_mem_nil _))
    | text k =>
      cases h
      rw [List.append_assoc]
      exact @Consumed.colon _ _ _ [] k outer (List.forall_mem_nil _)
    | _ => cases h
  | key outer held =>
    cases t with
    | text k =>
      cases h
      rw [List.append_assoc, List.cons_append]
      exact .colon outer held
    | _ => cases h
  | colon outer held =>
    cases t with
    | colon =>
      cases h
      rw [List.append_assoc, List.cons_append, List.append_assoc]
      exact .value (.member outer held)
    | _ => cases h
  | after outer hv => exact Consumed.afterStep outer hv h

/-- **Tokens are added** to what has been read, one after the other. -/
theorem Consumed.run {more : List Token} (read : Consumed ts m) (kinds : ∀ t ∈ more, t.Lexed)
    (h : more.foldlM Reader.step m = some m') : Consumed (ts ++ more) m' := by
  induction more generalizing ts m with
  | nil =>
    cases h
    rwa [List.append_nil]
  | cons t more ih =>
    rw [List.foldlM_cons] at h
    obtain ⟨next, one, rest⟩ := Option.bind_eq_some_iff.mp h
    obtain ⟨ht, hmore⟩ := List.forall_mem_cons.mp kinds
    rw [List.append_cons]
    exact ih (read.step ht one) hmore rest

end Reader

/-! ## Whole texts -/

/-- **A text is read** as the value that it gives, settled. -/
theorem parse?_eq_some_iff {text : String} {w : Json} :
    parse? text = some w ↔ ∃ v, Gives text v ∧ v.settled = w := by
  constructor
  · intro h
    obtain ⟨ts, lexed, h⟩ := Option.bind_eq_some_iff.mp h
    obtain ⟨m, read, finish⟩ := Option.bind_eq_some_iff.mp h
    have consumed := (Reader.Consumed.value .nil).run (lexed_of_tokens? lexed) read
    rw [List.nil_append] at consumed
    unfold Reader.finish at finish
    split at finish
    · cases finish
      cases consumed with
      | after outer hv =>
        cases outer
        exact ⟨_, ⟨lexed, hv⟩, rfl⟩
    · cases finish
  · rintro ⟨v, ⟨spelled, nested⟩, rfl⟩
    rw [parse?, spelled, Option.bind_eq_bind, Option.bind_some, ofTokens?,
      foldlM_spelling nested (Nat.le_of_eq (Nat.zero_add _)) (.inl rfl)]
    rfl

end CallMeter.Json
