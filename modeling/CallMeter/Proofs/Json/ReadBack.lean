import CallMeter.Json.Reader
import CallMeter.Proofs.Json.Tokens
import CallMeter.Record

/-!
# Values read back

What the compact text of a value reads as: the value itself, but for its numbers, which are read
anew from their text, and unless it is nested too deeply. Reading resumes after each piece of a
text where the piece left it, so a value that stands inside another is read as it is alone, with
less room for nesting.

## Main definitions

* `induct`: induction over the items and members of a value
* `reread`: a value with its numbers read anew, if it is nested no deeper than there is room
* `resume`: what a text reads as from where a reader stands

## Main results

* `resume_write`: a value that is written where one is due is read there
* `parse?_compact`: what the compact text of a value reads as
-/

namespace CallMeter.Json

/-- **Induction over values**: a property holds of all values if it passes from the items of an
array and the members of an object to these. -/
theorem induct {P : Json → Prop} (null : P .null) (bool : ∀ b, P (.bool b))
    (number : ∀ n, P (.number n)) (string : ∀ s, P (.string s))
    (array : ∀ items, (∀ v ∈ items, P v) → P (.array items))
    (object : ∀ members, (∀ e ∈ members, P e.2) → P (.object members)) (v : Json) : P v :=
  Json.rec (motive_1 := P) (motive_2 := fun items => ∀ v ∈ items, P v)
    (motive_3 := fun members => ∀ e ∈ members, P e.2) (motive_4 := fun e => P e.2)
    null bool number string array object
    (List.forall_mem_nil _) (fun _ _ hv hr => List.forall_mem_cons.mpr ⟨hv, hr⟩)
    (List.forall_mem_nil _) (fun _ _ he hr => List.forall_mem_cons.mpr ⟨he, hr⟩)
    (fun _ _ hv => hv) v

mutual

/-- **A value read anew** with room for `room` arrays and objects inside each other: its numbers
are what their texts denote. -/
def reread : (room : Nat) → Json → Option Json
  | _, .number n => wordScalar? (writeNumber n)
  | 0, .array _ => none
  | room + 1, .array items => (rereadItems room items).map .array
  | 0, .object _ => none
  | room + 1, .object members =>
    (rereadMembers room members).map fun entries => .object (Entries.ofList entries)
  | _, v => some v

/-- The items of an array, each read anew. -/
def rereadItems (room : Nat) : List Json → Option (List Json)
  | [] => some []
  | v :: r => (reread room v).bind fun w => (rereadItems room r).map (w :: ·)

/-- The members of an object, each value read anew. -/
def rereadMembers (room : Nat) : List (String × Json) → Option (List (String × Json))
  | [] => some []
  | (k, v) :: r => (reread room v).bind fun w => (rereadMembers room r).map ((k, w) :: ·)

end

/-- **What a text reads as** from where a reader stands. -/
def resume (m : Reader) (cs : List Char) : Option Json := do
  (← (← tokens? cs).foldlM Reader.step m).finish

/-! ## Reading on -/

section Resume

variable {cs rest w : List Char} {m : Reader} {stack : List Reader.Frame} {mode : Reader.Mode}

/-- A text that starts with a token is read on after that token. -/
theorem resume_of_token {t : Token} (h : tokens? cs = (tokens? rest).map (t :: ·)) :
    resume m cs = (m.step t).bind fun m => resume m rest := by
  unfold resume
  rw [h]
  cases tokens? rest with
  | none => cases m.step t <;> rfl
  | some ts =>
    simp only [Option.map_some, Option.bind_eq_bind, Option.bind_some, List.foldlM_cons]
    cases m.step t <;> rfl

theorem resume_mark {c : Char} {t : Token} {m' : Reader}
    (h : Lexer.gapStep [] c = some ⟨[t], .gap⟩) (hs : m.step t = some m') :
    resume m (c :: rest) = resume m' rest := by
  rw [resume_of_token (tokens?_mark h rest), hs, Option.bind_some]

theorem resume_quoted {s : String} {m' : Reader} (hs : m.step (.text s) = some m') :
    resume m (quoted s ++ rest) = resume m' rest := by
  rw [resume_of_token (tokens?_quoted s rest), hs, Option.bind_some]

/-- A mode in which a value is due. -/
def Reader.Mode.Due (mode : Reader.Mode) : Prop :=
  mode = .value ∨ mode = .firstItem

theorem step_of_due (hm : mode.Due) {t : Token} (ht : t ≠ .closeArray) :
    Reader.step ⟨stack, mode⟩ t = Reader.valueStep stack t := by
  rcases hm with rfl | rfl
  · rfl
  · cases t with
    | closeArray => exact absurd rfl ht
    | _ => rfl

/-- **A word where a value is due** is the scalar that it spells. -/
theorem resume_word (hm : mode.Due) (hne : w ≠ []) (hw : ∀ c ∈ w, isWordChar c = true)
    (hrest : Ends rest) :
    resume ⟨stack, mode⟩ (w ++ rest) =
      (wordScalar? w).bind fun v => resume ⟨stack, .after v⟩ rest := by
  have read := tokens?_word hne hw hrest
  cases hv : wordScalar? w with
  | none =>
    rw [hv, Option.bind_none] at read
    simp only [resume, read]
    rfl
  | some v =>
    rw [hv, Option.bind_some] at read
    rw [resume_of_token read, step_of_due hm (by simp)]
    rfl

end Resume

/-! ## Arrays and objects -/

/-- **A value that reads back**: written where one is due, it is read there as `reread` says, and
reading goes on after it. -/
def ReadsBack (v : Json) : Prop :=
  ∀ ⦃stack : List Reader.Frame⦄ ⦃mode : Reader.Mode⦄ ⦃room : Nat⦄ ⦃rest : List Char⦄,
    stack.length + room = Reader.maxDepth → mode.Due → Ends rest →
      resume ⟨stack, mode⟩ (write v ++ rest) =
        (reread room v).bind fun w => resume ⟨stack, .after w⟩ rest

section Nested

variable {stack : List Reader.Frame} {room : Nat} {rest : List Char}

theorem ends_moreItems (items : List Json) (rest : List Char) :
    Ends (writeMoreItems items ++ ']' :: rest) := by
  cases items with
  | nil => exact ends_cons (by decide) _
  | cons v items =>
    rw [writeMoreItems]
    exact ends_cons (by decide) _

theorem ends_moreMembers (members : List (String × Json)) (rest : List Char) :
    Ends (writeMoreMembers members ++ '}' :: rest) := by
  cases members with
  | nil => exact ends_cons (by decide) _
  | cons e members =>
    rw [writeMoreMembers]
    exact ends_cons (by decide) _

/-- The items after a first one, up to the bracket that closes their array. -/
theorem resume_moreItems {items : List Json} (h : ∀ v ∈ items, ReadsBack v)
    (fits : stack.length + (room + 1) = Reader.maxDepth) (rev : List Json) (v : Json) :
    resume ⟨.items rev :: stack, .after v⟩ (writeMoreItems items ++ ']' :: rest) =
      (rereadItems room items).bind fun vs =>
        resume ⟨stack, .after (.array ((v :: rev).reverse ++ vs))⟩ rest := by
  -- the items read so far wait in the frame, the newest first
  induction items generalizing rev v with
  | nil =>
    rw [writeMoreItems, List.nil_append, resume_mark (t := .closeArray) rfl rfl, rereadItems,
      Option.bind_some, List.append_nil]
  | cons w items ih =>
    obtain ⟨hw, hitems⟩ := List.forall_mem_cons.mp h
    have inside : (Reader.Frame.items (v :: rev) :: stack).length + room = Reader.maxDepth := by
      rw [List.length_cons]
      omega
    rw [writeMoreItems, List.cons_append, List.append_assoc,
      resume_mark (t := .comma) rfl rfl, hw inside (.inl rfl) (ends_moreItems items rest),
      rereadItems, Option.bind_assoc]
    congr 1
    funext w'
    rw [ih hitems, Option.bind_map]
    simp only [Function.comp_def, List.reverse_cons, List.append_assoc, List.cons_append,
      List.nil_append]

/-- The members after a first one, up to the bracket that closes their object. -/
theorem resume_moreMembers {members : List (String × Json)} (h : ∀ e ∈ members, ReadsBack e.2)
    (fits : stack.length + (room + 1) = Reader.maxDepth) (before : List (String × Json))
    (key : String) (v : Json) :
    resume ⟨.member before key :: stack, .after v⟩ (writeMoreMembers members ++ '}' :: rest) =
      (rereadMembers room members).bind fun entries =>
        resume ⟨stack, .after (.object
          (((key, v) :: entries).foldl (fun es e => Entries.put e.1 e.2 es) before))⟩ rest := by
  -- a member is put among those before it only when the next one begins or the object ends
  induction members generalizing before key v with
  | nil =>
    rw [writeMoreMembers, List.nil_append, resume_mark (t := .closeObject) rfl rfl, rereadMembers,
      Option.bind_some]
    rfl
  | cons e members ih =>
    obtain ⟨k, w⟩ := e
    obtain ⟨hw, hmembers⟩ := List.forall_mem_cons.mp h
    have inside : (Reader.Frame.member (Entries.put key v before) k :: stack).length + room =
        Reader.maxDepth := by
      rw [List.length_cons]
      omega
    rw [writeMoreMembers, List.cons_append, List.append_assoc, List.cons_append,
      List.append_assoc, resume_mark (t := .comma) rfl rfl, resume_quoted rfl,
      resume_mark (t := .colon) rfl rfl, hw inside (.inl rfl) (ends_moreMembers members rest),
      rereadMembers, Option.bind_assoc]
    congr 1
    funext w'
    rw [ih hmembers, Option.bind_map]
    rfl

theorem readsBack_array {items : List Json} (h : ∀ v ∈ items, ReadsBack v) :
    ReadsBack (.array items) := by
  intro stack mode room rest fits hm hrest
  rw [write, List.cons_append]
  cases room with
  | zero =>
    have full : ¬ stack.length < Reader.maxDepth := by omega
    rw [resume_of_token (t := .openArray) (tokens?_mark rfl _), step_of_due hm (by simp),
      Reader.valueStep, if_neg full]
    rfl
  | succ room =>
    have more : stack.length < Reader.maxDepth := by omega
    have opened : Reader.step ⟨stack, mode⟩ .openArray =
        some ⟨.items [] :: stack, .firstItem⟩ := by
      rw [step_of_due hm (by simp), Reader.valueStep, if_pos more]
    rw [resume_mark (t := .openArray) rfl opened, List.append_assoc, List.singleton_append,
      reread]
    cases items with
    | nil =>
      rw [writeItems, List.nil_append, resume_mark (t := .closeArray) rfl rfl]
      rfl
    | cons v items =>
      obtain ⟨hv, hitems⟩ := List.forall_mem_cons.mp h
      have inside : (Reader.Frame.items [] :: stack).length + room = Reader.maxDepth := by
        rw [List.length_cons]
        omega
      rw [writeItems, List.append_assoc, hv inside (.inr rfl) (ends_moreItems items rest),
        rereadItems, Option.map_bind, Option.bind_assoc]
      congr 1
      funext w
      rw [resume_moreItems hitems fits]
      simp [Option.bind_map, Function.comp_def]

theorem readsBack_object {members : List (String × Json)} (h : ∀ e ∈ members, ReadsBack e.2) :
    ReadsBack (.object members) := by
  intro stack mode room rest fits hm hrest
  rw [write, List.cons_append]
  cases room with
  | zero =>
    have full : ¬ stack.length < Reader.maxDepth := by omega
    rw [resume_of_token (t := .openObject) (tokens?_mark rfl _), step_of_due hm (by simp),
      Reader.valueStep, if_neg full]
    rfl
  | succ room =>
    have more : stack.length < Reader.maxDepth := by omega
    have opened : Reader.step ⟨stack, mode⟩ .openObject = some ⟨stack, .firstKey⟩ := by
      rw [step_of_due hm (by simp), Reader.valueStep, if_pos more]
    rw [resume_mark (t := .openObject) rfl opened, List.append_assoc, List.singleton_append,
      reread]
    cases members with
    | nil =>
      rw [writeMembers, List.nil_append, resume_mark (t := .closeObject) rfl rfl]
      rfl
    | cons e members =>
      obtain ⟨k, v⟩ := e
      obtain ⟨hv, hmembers⟩ := List.forall_mem_cons.mp h
      have inside : (Reader.Frame.member [] k :: stack).length + room = Reader.maxDepth := by
        rw [List.length_cons]
        omega
      rw [writeMembers, List.append_assoc, List.cons_append, List.append_assoc, resume_quoted rfl,
        resume_mark (t := .colon) rfl rfl, hv inside (.inl rfl) (ends_moreMembers members rest),
        rereadMembers, Option.map_bind, Option.bind_assoc]
      congr 1
      funext w
      rw [resume_moreMembers hmembers fits]
      simp [Option.bind_map, Function.comp_def, Entries.ofList]

end Nested

/-! ## Whole texts -/

/-- **A value that is written where one is due** is read there. -/
theorem resume_write (v : Json) : ReadsBack v := by
  -- a word is not yet over where it ends, so what follows has to end it
  have word {w : List Char} {v : Json} (hne : w ≠ []) (hw : w.all isWordChar = true)
      (hv : write v = w) (hr : ∀ room, reread room v = wordScalar? w) : ReadsBack v := by
    intro stack mode room rest fits hm hrest
    rw [hv, hr, resume_word hm hne (List.all_eq_true.mp hw) hrest]
  induction v using induct with
  | null => exact word (v := .null) (by decide) (by decide) rfl fun _ => rfl
  | bool b =>
    cases b with
    | false => exact word (v := .bool false) (by decide) (by decide) rfl fun _ => rfl
    | true => exact word (v := .bool true) (by decide) (by decide) rfl fun _ => rfl
  | number n =>
    have hw := List.all_eq_true.mpr (isWordChar_of_mem_writeNumber n)
    exact word (writeNumber_ne_nil n) hw rfl fun _ => rfl
  | string s =>
    intro stack mode room rest fits hm hrest
    rw [write, resume_quoted (step_of_due hm (by simp))]
    rfl
  | array items ih => exact readsBack_array ih
  | object members ih => exact readsBack_object ih

/-- **The compact text of a value** reads as the value read anew, with room for as many arrays
and objects as may be open. -/
theorem parse?_compact (v : Json) : parse? v.compact = reread Reader.maxDepth v := by
  have whole : parse? v.compact = resume ⟨[], .value⟩ (write v ++ []) := by
    rw [parse?, compact, String.toList_ofList, List.append_nil]
    rfl
  rw [whole, resume_write v (Nat.zero_add _) (.inl rfl) ends_nil]
  cases reread Reader.maxDepth v <;> rfl

/-! ## What stays when a value is read anew -/

section Stays

variable {room : Nat} {v w : Json}

/-- A word never spells a string. -/
theorem asText_of_wordScalar? {cs : List Char} (h : wordScalar? cs = some v) :
    asText (some v) = none ∧ v.isObject = false := by
  unfold wordScalar? at h
  split at h
  · cases h
    exact ⟨rfl, rfl⟩
  · cases h
    exact ⟨rfl, rfl⟩
  · cases h
    exact ⟨rfl, rfl⟩
  · obtain ⟨n, -, rfl⟩ := Option.map_eq_some_iff.mp h
    exact ⟨rfl, rfl⟩

/-- **A text field stays**, and objects stay objects. -/
theorem asText_reread (h : reread room v = some w) :
    asText (some w) = asText (some v) ∧ w.isObject = v.isObject := by
  cases v with
  | number n => exact asText_of_wordScalar? h
  | array items =>
    cases room with
    | zero => cases h
    | succ room =>
      obtain ⟨ws, -, rfl⟩ := Option.map_eq_some_iff.mp h
      exact ⟨rfl, rfl⟩
  | object members =>
    cases room with
    | zero => cases h
    | succ room =>
      obtain ⟨entries, -, rfl⟩ := Option.map_eq_some_iff.mp h
      exact ⟨rfl, rfl⟩
  | null | bool | string =>
    cases h
    exact ⟨rfl, rfl⟩

variable {members entries : List (String × Json)}

theorem keys_rereadMembers (h : rereadMembers room members = some entries) :
    entries.map Prod.fst = members.map Prod.fst := by
  induction members generalizing entries with
  | nil =>
    cases h
    rfl
  | cons e members ih =>
    obtain ⟨w, -, h⟩ := Option.bind_eq_some_iff.mp h
    obtain ⟨rest, hrest, rfl⟩ := Option.map_eq_some_iff.mp h
    rw [List.map_cons, List.map_cons, ih hrest]

/-- The value under a key is the one that was there, read anew. -/
theorem get?_rereadMembers (h : rereadMembers room members = some entries) (key : String) :
    (Entries.get? key members).map (reread room) = (Entries.get? key entries).map some := by
  induction members generalizing entries with
  | nil =>
    cases h
    rfl
  | cons e members ih =>
    obtain ⟨w, hw, h⟩ := Option.bind_eq_some_iff.mp h
    obtain ⟨rest, hrest, rfl⟩ := Option.map_eq_some_iff.mp h
    rw [Entries.get?, Entries.get?]
    split
    · rw [Option.map_some, Option.map_some, hw]
    · exact ih hrest

/-- **An object read anew** has the same keys, and under each of them the value that was there,
read anew. -/
theorem exists_entries_of_reread (h : reread room (.object members) = some w)
    (once : (members.map Prod.fst).Nodup) :
    ∃ inner entries, room = inner + 1 ∧ w = .object entries ∧ ∀ key,
      Entries.get? key members = none ∧ Entries.get? key entries = none ∨
        ∃ v w, Entries.get? key members = some v ∧ Entries.get? key entries = some w ∧
          reread inner v = some w := by
  cases room with
  | zero => cases h
  | succ inner =>
    obtain ⟨entries, he, rfl⟩ := Option.map_eq_some_iff.mp h
    have same : Entries.ofList entries = entries :=
      Entries.ofList_of_nodup (keys_rereadMembers he ▸ once)
    refine ⟨inner, entries, rfl, by rw [same], fun key => ?_⟩
    have value := get?_rereadMembers he key
    cases hv : Entries.get? key members with
    | none =>
      rw [hv, Option.map_none, eq_comm, Option.map_eq_none_iff] at value
      exact .inl ⟨rfl, value⟩
    | some v =>
      rw [hv, Option.map_some, eq_comm, Option.map_eq_some_iff] at value
      obtain ⟨w, hw, read⟩ := value
      exact .inr ⟨v, w, rfl, hw, read.symm⟩

/-- **The text fields of an object stay** when it is read anew. -/
theorem asText_field?_reread (h : reread room (.object members) = some w)
    (once : (members.map Prod.fst).Nodup) (key : String) :
    asText (w.field? key) = asText (Entries.get? key members) := by
  obtain ⟨inner, entries, rfl, rfl, value⟩ := exists_entries_of_reread h once
  rcases value key with ⟨none, none'⟩ | ⟨v, w, hv, hw, read⟩
  · rw [field?, none, none']
  · rw [field?, hv, hw]
    exact (asText_reread read).1

end Stays

end CallMeter.Json
