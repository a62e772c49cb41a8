import CallMeter.Proofs.Json.Lexemes
import CallMeter.Proofs.Json.Members
import CallMeter.Proofs.Record.Counts

/-!
# The fields of a record

Every text of an object is a record, whatever its members hold, and each field is read from the
last value that is given for its own key. So edits of a text at one key leave all other fields
as they are, edits at a key that no field has leave the record, and so do blanks between tokens.

## Main definitions

* `texts`, `flags`: the fields of a record that are texts and flags
* `ReadFrom`: a record is read from the last values of members
* `AgreeBut`: records that agree but for the field of a key

## Main results

* `ofText?_of_gives`: the record of a text is that of the members that it gives
* `readFrom_ofGiven`: the record of members is read from their last values
* `AgreeBut.eq`: records that agree but for a key that no field has are the same
* `ofText?_reads_last_values`: all of this for the records of texts
-/

namespace CallMeter.CallRecord

open Json (lastGiven? EditedAt Gives asText asFlag asCount)

/-! ## Fields and their keys -/

/-- **The text fields of a record**, with the members that they are read from. -/
def texts : List (String × (CallRecord → Option String)) :=
  [("tenantId", tenant), ("useCaseId", useCase), ("startedAt", startedAt), ("endedAt", endedAt),
    ("lastUpdatedAt", lastUpdatedAt)]

/-- **The flags of a record**, with the members that they are read from. -/
def flags : List (String × (CallRecord → Bool)) :=
  [("ended", ended), ("hasError", hasError)]

/-- The keys that a record has a field for. -/
def keys : List String :=
  texts.map Prod.fst ++ flags.map Prod.fst ++ counts.map Prod.fst

/-- **A record is read from members**: each of its fields is in the last value given for its
key. A text is there if that is a string which is not blank, and is kept as it is. -/
structure ReadFrom (given : List (String × Json)) (r : CallRecord) : Prop where
  texts : ∀ field ∈ texts, ∀ s, field.2 r = some s ↔
    lastGiven? field.1 given = some (.string s) ∧ Text.isBlank s = false
  flags : ∀ field ∈ flags, field.2 r = asFlag (lastGiven? field.1 given)
  counts : ∀ field ∈ counts, field.2 r = asCount (lastGiven? field.1 given)

/-- **Records that agree but for the field of a key**. -/
structure AgreeBut (key : String) (r r' : CallRecord) : Prop where
  texts : ∀ field ∈ texts, field.1 ≠ key → field.2 r = field.2 r'
  flags : ∀ field ∈ flags, field.1 ≠ key → field.2 r = field.2 r'
  counts : ∀ field ∈ counts, field.1 ≠ key → field.2 r = field.2 r'

theorem text_ofMembers {field : String × (CallRecord → Option String)} (h : field ∈ texts)
    (members : List (String × Json)) :
    field.2 (ofMembers members) = asText (Entries.get? field.1 members) := by
  simp only [texts, List.mem_cons, List.not_mem_nil, or_false] at h
  rcases h with rfl | rfl | rfl | rfl | rfl <;> rfl

theorem flag_ofMembers {field : String × (CallRecord → Bool)} (h : field ∈ flags)
    (members : List (String × Json)) :
    field.2 (ofMembers members) = asFlag (Entries.get? field.1 members) := by
  simp only [flags, List.mem_cons, List.not_mem_nil, or_false] at h
  rcases h with rfl | rfl <;> rfl

/-- **A record is its fields**: the texts, the flags and the counters. -/
theorem eq_of_fields {r r' : CallRecord} (text : ∀ field ∈ texts, field.2 r = field.2 r')
    (flag : ∀ field ∈ flags, field.2 r = field.2 r')
    (count : ∀ field ∈ counts, field.2 r = field.2 r') : r = r' := by
  obtain ⟨⟩ := r
  obtain ⟨⟩ := r'
  simp_all [texts, flags, counts]

/-- **Records that agree but for a key** that no field has are the same. -/
theorem AgreeBut.eq {key : String} {r r' : CallRecord} (h : AgreeBut key r r')
    (unread : key ∉ keys) : r = r' := by
  simp only [keys, List.mem_append, not_or] at unread
  obtain ⟨⟨noText, noFlag⟩, noCount⟩ := unread
  apply eq_of_fields
  · intro field hf
    exact h.texts field hf fun same => noText (same ▸ List.mem_map_of_mem hf)
  · intro field hf
    exact h.flags field hf fun same => noFlag (same ▸ List.mem_map_of_mem hf)
  · intro field hf
    exact h.counts field hf fun same => noCount (same ▸ List.mem_map_of_mem hf)

/-! ## Records of members -/

variable {given given' : List (String × Json)} {key : String} {r r' : CallRecord}

/-- The record of an object with the given members. -/
def ofGiven (given : List (String × Json)) : CallRecord :=
  ofMembers (Entries.ofList (Json.settledMembers given))

/-- **The record of a text** is that of the members that it gives. -/
theorem ofText?_of_gives {text : String} (h : Gives text (.object given)) :
    ofText? text = some (ofGiven given) := by
  rw [ofText?, Json.parse?_eq_some_iff.mpr ⟨_, h, rfl⟩, Json.settled]
  rfl

theorem readFrom_ofGiven (given : List (String × Json)) : ReadFrom given (ofGiven given) where
  texts := by
    intro field h s
    rw [ofGiven, text_ofMembers h, Json.get?_settled, Json.asText_settled, Json.asText_eq_some]
  flags := by
    intro field h
    rw [ofGiven, flag_ofMembers h, Json.get?_settled, Json.asFlag_settled]
  counts := by
    intro field h
    rw [ofGiven, count_ofMembers h, Json.get?_settled, Json.asCount_settled]

/-- **Records agree** in the fields whose keys have the same last values. -/
theorem ReadFrom.agreeBut (h : ReadFrom given r) (h' : ReadFrom given' r')
    (same : ∀ k, k ≠ key → lastGiven? k given = lastGiven? k given') : AgreeBut key r r' where
  texts := by
    intro field hf other
    apply Option.ext
    intro s
    rw [h.texts field hf, h'.texts field hf, same _ other]
  flags := by
    intro field hf other
    rw [h.flags field hf, h'.flags field hf, same _ other]
  counts := by
    intro field hf other
    rw [h.counts field hf, h'.counts field hf, same _ other]

/-! ## Records of texts -/

/-- Exactly the texts of objects are records. -/
theorem exists_ofText?_iff {text : String} :
    (∃ r, ofText? text = some r) ↔ ∃ members, Json.parse? text = some (.object members) := by
  constructor
  · rintro ⟨r, read⟩
    obtain ⟨v, parsed, item⟩ := Option.bind_eq_some_iff.mp read
    cases v with
    | object members => exact ⟨members, parsed⟩
    | _ => cases item
  · rintro ⟨members, parsed⟩
    exact ⟨ofMembers members, by rw [ofText?, parsed]; rfl⟩

/-- **The record of a text** is there exactly if the text is that of an object, and its fields
are in the last values given for their keys. Other blanks between the tokens, other places of the
members and values that are replaced make no difference; other values of a key make none to the
other fields, and none at all if no field has the key. -/
theorem ofText?_reads_last_values (text : String) :
    ((∃ r, ofText? text = some r) ↔ ∃ members, Json.parse? text = some (.object members)) ∧
    (∀ members, Json.parse? text = some (.object members) →
      ∃ given, Gives text (.object given)) ∧
    ∀ given, Gives text (.object given) →
      ∃ r, ofText? text = some r ∧ ReadFrom given r ∧
        (∀ text', Json.unspaced false text.toList = Json.unspaced false text'.toList →
          (Json.parse? text').isSome → ofText? text' = some r) ∧
        ∀ key text' given', Gives text' (.object given') → EditedAt key given given' →
          ∃ r', ofText? text' = some r' ∧ AgreeBut key r r' ∧ (key ∉ keys → r' = r) := by
  refine ⟨exists_ofText?_iff, fun _ => Json.exists_given, ?_⟩
  intro given gives
  have read := readFrom_ofGiven given
  refine ⟨ofGiven given, ofText?_of_gives gives, read, ?_, ?_⟩
  · intro text' spaced document
    obtain ⟨v, parsed'⟩ := Option.isSome_iff_exists.mp document
    have parsed := Json.parse?_eq_some_iff.mpr ⟨_, gives, rfl⟩
    have same := Json.parse?_eq_of_unspaced spaced parsed parsed'
    rw [← ofText?_of_gives gives, ofText?, ofText?, parsed', parsed, same]
  · intro key text' given' gives' edited
    have agree : AgreeBut key (ofGiven given) (ofGiven given') :=
      read.agreeBut (readFrom_ofGiven given') fun k => edited.lastGiven?_eq
    exact ⟨ofGiven given', ofText?_of_gives gives', agree, fun other => (agree.eq other).symm⟩

/-- A tenant with blanks around it, and a flag. Blanks between the tokens and a tenant under
another spelling of its key change nothing, and a flag of another kind does not show in the
tenant, whatever its place and whatever was given for the tenant before. -/
theorem ofText?_reads_last_values_of_tenant :
    let given : List (String × Json) := [("tenantId", .string " acme "), ("ended", .bool true)]
    let edited : List (String × Json) :=
      [("tenantId", .null), ("ended", .string "no"), ("tenantId", .string " acme ")]
    let spelled : List (String × Json) := given ++ [("tenant_id", .string "other")]
    Gives (Json.compact (.object given)) (.object given) ∧
      Gives (Json.compact (.object edited)) (.object edited) ∧ EditedAt "ended" given edited ∧
      Gives (Json.compact (.object spelled)) (.object spelled) ∧
      EditedAt "tenant_id" given spelled ∧
      ∃ r r', ofText? (Json.compact (.object given)) = some r ∧ r.tenant = some " acme " ∧
        ofText? "\x7b \"tenantId\": \" acme \",\n \"ended\": true \x7d" = some r ∧
        ofText? (Json.compact (.object spelled)) = some r ∧
        ofText? (Json.compact (.object edited)) = some r' ∧ r'.tenant = some " acme " := by
  intro given edited spelled
  have gives : Gives (Json.compact (.object given)) (.object given) := by
    refine ⟨by dsimp only [given]; rfl, .object ?_⟩
    exact List.forall_mem_cons.mpr ⟨.string _, List.forall_mem_singleton.mpr (.bool _)⟩
  have gives_edited : Gives (Json.compact (.object edited)) (.object edited) := by
    refine ⟨by dsimp only [edited]; rfl, .object (List.forall_mem_cons.mpr ⟨.null, ?_⟩)⟩
    exact List.forall_mem_cons.mpr ⟨.string _, List.forall_mem_singleton.mpr (.string _)⟩
  have gives_spelled : Gives (Json.compact (.object spelled)) (.object spelled) := by
    refine ⟨by dsimp only [spelled, given]; rfl, .object (List.forall_mem_cons.mpr ⟨.string _, ?_⟩)⟩
    exact List.forall_mem_cons.mpr ⟨.bool _, List.forall_mem_singleton.mpr (.string _)⟩
  have flag_first : EditedAt "ended" given
      [("ended", .bool true), ("tenantId", .string " acme ")] := .of_perm (.swap _ _ _) (by decide)
  have flag_changed : EditedAt "ended" [("ended", .bool true), ("tenantId", .string " acme ")]
      [("ended", .string "no"), ("tenantId", .string " acme ")] := .changed rfl
  have tenant_twice : EditedAt "ended" [("ended", .string "no"), ("tenantId", .string " acme ")]
      edited := .repeated [] .null (by decide)
  have edits := flag_first.trans (flag_changed.trans tenant_twice)
  have respelled : EditedAt "tenant_id" given spelled := .changed rfl
  refine ⟨gives, gives_edited, edits, gives_spelled, respelled, ?_⟩
  obtain ⟨-, -, fields⟩ := ofText?_reads_last_values (Json.compact (.object given))
  obtain ⟨r, read, from_given, spaced, others⟩ := fields given gives
  obtain ⟨r', read', agree, -⟩ := others "ended" _ _ gives_edited edits
  obtain ⟨r'', read'', -, same⟩ := others "tenant_id" _ _ gives_spelled respelled
  obtain rfl := same (by decide)
  have tenant : ("tenantId", CallRecord.tenant) ∈ texts := List.mem_cons_self
  have named : r''.tenant = some " acme " :=
    (from_given.texts _ tenant _).mpr ⟨rfl, by decide⟩
  refine ⟨r'', r', read, named, spaced _ (by decide +kernel) rfl, read'', read', ?_⟩
  rw [← named]
  exact (agree.texts _ tenant (by decide)).symm

end CallMeter.CallRecord
