import Specimen.Proofs.Settings.Readers

/-! A record is read if every field is, from an object or from an array (`readRecord_eq_ok_iff`). -/
namespace Specimen.Settings
open Json

variable {σ : Type} {fields : List (RecordField σ)} {entries : List (Entry σ)}

/-- The field is read as the entry has it. -/
structure Reads (field : RecordField σ) (entry : Entry σ) : Prop where
  name : field.name = entry.name
  decodes : Decodes field.read entry.decode

theorem reads_of {α : Type} {name : String} {read : Bytes → Reading α} {decode : Tree → Option α}
    {store : α → σ → σ} (h : Decodes read decode) : Reads (.of name read store) (.of name decode store) where
  name := rfl
  decodes.sound hread := by
    obtain ⟨_, hvalue, ⟨⟩⟩ := map_eq_ok_iff.mp hread
    obtain ⟨start, tree, hblanks, htree, hdecode⟩ := h.sound hvalue
    exact ⟨start, tree, hblanks, htree, Option.map_eq_some_iff.mpr ⟨_, hdecode, rfl⟩⟩
  decodes.complete hblanks hvalue hends hdecode := by
    obtain ⟨value, hdecode', rfl⟩ := Option.map_eq_some_iff.mp hdecode
    exact map_eq_ok_iff.mpr ⟨_, h.complete hblanks hvalue hends hdecode', rfl⟩

/-! ### Objects -/

/-- A key is known to the fields as it is to the entries. -/
theorem find?_reads (h : List.Forall₂ Reads fields entries) (key : String) :
    Option.Rel Reads (fields.find? (·.name == key)) (entries.find? (·.name == key)) := by
  induction h with
  | nil => exact .none
  | @cons field entry fields entries hreads _ ih =>
    rw [List.find?_cons, List.find?_cons, hreads.name]
    split
    · exact .some hreads
    · exact ih

theorem members_of_readRecordMembers (hreads : List.Forall₂ Reads fields entries) {fuel : Nat} {first : Bool}
    {seen : List String} {record value : σ} {input rest : Bytes}
    (h : readRecordMembers fields fuel first seen record input = .ok (value, rest)) :
    ∃ members, Members first input members rest ∧ (members.map Prod.fst).Nodup ∧
      (∀ key ∈ members.map Prod.fst, key ∉ seen) ∧ storeMembers entries members record = some value := by
  -- A key joins those seen, so that no later member has it; this is what makes the keys distinct.
  induction fuel generalizing first seen record input with
  | zero => cases h
  | succ fuel ih =>
    obtain ⟨⟨key?, spelled⟩, hnext, h⟩ := bind_eq_ok_iff.mp h
    rw [within_eq_ok_iff, malformed_eq_ok_iff] at hnext
    cases key? with
    | none =>
      obtain ⟨rfl, rfl⟩ := Prod.mk.inj (Except.ok.inj h)
      exact ⟨[], .close (nextKey_eq_end_iff.mp hnext), List.nodup_nil, List.forall_mem_nil _, rfl⟩
    | some key =>
      obtain ⟨start, hlead, hkey⟩ := nextKey_eq_key_iff.mp hnext
      have hfind := find?_reads hreads key
      dsimp only at h
      split at h
      case h_1 => cases h
      case h_2 field hfield =>
        rw [hfield] at hfind
        generalize hentry : entries.find? (·.name == key) = entry? at hfind
        obtain ⟨hread⟩ := hfind
        split_ifs at h with hseen
        · cases h
        · obtain ⟨⟨store, after⟩, hvalue, h⟩ := bind_eq_ok_iff.mp h
          obtain ⟨colon, hcolon, hvalue⟩ := bind_eq_ok_iff.mp (within_eq_ok_iff.mp hvalue)
          obtain ⟨item, tree, hblanks, htree, hdecode⟩ := hread.decodes.sound hvalue
          obtain ⟨members, hmembers, hnodup, hfresh, hstore⟩ := ih h
          refine ⟨(key, tree) :: members, .member hlead hkey
            (colon_eq_ok_iff.mp (malformed_eq_ok_iff.mp hcolon)) hblanks htree hmembers, ?_, ?_, ?_⟩
          · exact List.nodup_cons.mpr ⟨fun hkey => hfresh key hkey List.mem_cons_self, hnodup⟩
          · refine List.forall_mem_cons.mpr ⟨by simpa using hseen, fun key' hkey' hmem => ?_⟩
            exact hfresh key' hkey' (List.mem_cons_of_mem key hmem)
          · exact Option.bind_eq_some_iff.mpr
              ⟨_, hentry, Option.bind_eq_some_iff.mpr ⟨store, hdecode, hstore⟩⟩

theorem readRecordMembers_of_members (hreads : List.Forall₂ Reads fields entries) {fuel : Nat} {first : Bool}
    {seen : List String} {record value : σ} {input rest : Bytes} {members : List (String × Tree)}
    (hmembers : Members first input members rest) (hnodup : (members.map Prod.fst).Nodup)
    (hfresh : ∀ key ∈ members.map Prod.fst, key ∉ seen)
    (hstore : storeMembers entries members record = some value) (hfuel : members.length < fuel) :
    readRecordMembers fields fuel first seen record input = .ok (value, rest) := by
  induction fuel generalizing first seen record input members with
  | zero => cases hfuel
  | succ fuel ih =>
    cases hmembers with
    | close hclose =>
      obtain rfl := Option.some.inj hstore
      exact bind_eq_ok_iff.mpr
        ⟨_, within_eq_ok_iff.mpr (malformed_eq_ok_iff.mpr (nextKey_eq_end_iff.mpr hclose)), rfl⟩
    | @member _ _ start spelled after colon item _ key tree members hlead hkey hcolon hblanks hvalue hmembers =>
      have hnext := nextKey_eq_key_iff.mpr ⟨start, hlead, hkey⟩
      refine bind_eq_ok_iff.mpr ⟨_, within_eq_ok_iff.mpr (malformed_eq_ok_iff.mpr hnext), ?_⟩
      obtain ⟨entry, hentry, hstore⟩ := Option.bind_eq_some_iff.mp hstore
      obtain ⟨store, hdecode, hstore⟩ := Option.bind_eq_some_iff.mp hstore
      have hfind := find?_reads hreads key
      rw [hentry] at hfind
      generalize hfield : fields.find? (·.name == key) = field? at hfind
      obtain ⟨hread⟩ := hfind
      obtain ⟨hnot, hnodup⟩ := List.nodup_cons.mp hnodup
      obtain ⟨hseen, hfresh⟩ := List.forall_mem_cons.mp hfresh
      have hseen : seen.contains key = false := by simpa using hseen
      have hvalue := hread.decodes.complete hblanks hvalue hmembers.endsNumeral hdecode
      simp only [hfield, hseen]
      refine bind_eq_ok_iff.mpr ⟨(store, after), within_eq_ok_iff.mpr ?_, ?_⟩
      · exact bind_eq_ok_iff.mpr ⟨colon, malformed_eq_ok_iff.mpr (colon_eq_ok_iff.mpr hcolon), hvalue⟩
      · refine ih hmembers hnodup (fun key' hkey' hmem => ?_) hstore (Nat.lt_of_succ_lt_succ hfuel)
        rcases List.mem_cons.mp hmem with rfl | hmem
        · exact hnot hkey'
        · exact hfresh key' hkey' hmem

/-! ### Arrays -/

theorem closeRecord_eq_ok_iff {input rest : Bytes} :
    closeRecord input = .ok rest ↔ Blanks input (']'.toUInt8 :: rest) := by
  constructor
  · intro h
    unfold closeRecord at h
    dsimp only at h
    split at h
    case h_1 => cases h
    case h_2 b after hinput =>
      split_ifs at h with hclose
      · obtain rfl := isByte_iff.mp hclose
        obtain rfl := Except.ok.inj h
        exact (skipBlanks_eq_cons_iff.mp hinput).1
      · split at h <;> cases h
      · cases h
  · intro h
    simp only [closeRecord, skipBlanks_eq_cons_iff.mpr ⟨h, by decide⟩]
    rfl

theorem items_of_readRecordItems (hreads : List.Forall₂ Reads fields entries) {n : Nat} {record value : σ}
    {input rest : Bytes} (h : readRecordItems fields n record input = .ok (value, rest)) :
    ∃ items, Items (n == 0) input items rest ∧ storeItems entries items record = some value := by
  induction hreads generalizing n record input with
  | nil =>
    obtain ⟨_, hclose, h⟩ := bind_eq_ok_iff.mp h
    obtain ⟨rfl, rfl⟩ := Prod.mk.inj (Except.ok.inj h)
    exact ⟨[], .close (closeRecord_eq_ok_iff.mp (malformed_eq_ok_iff.mp hclose)), rfl⟩
  | cons hread _ ih =>
    obtain ⟨⟨more, start⟩, hnext, h⟩ := bind_eq_ok_iff.mp h
    rw [malformed_eq_ok_iff] at hnext
    cases more with
    | false =>
      obtain ⟨rfl, rfl⟩ := Prod.mk.inj (Except.ok.inj h)
      exact ⟨[], .close (nextItem_eq_end_iff.mp hnext), by rw [storeItems]⟩
    | true =>
      obtain ⟨⟨store, after⟩, hvalue, h⟩ := bind_eq_ok_iff.mp h
      obtain ⟨item, tree, hblanks, htree, hdecode⟩ := hread.decodes.sound (within_eq_ok_iff.mp hvalue)
      obtain ⟨items, hitems, hstore⟩ := ih h
      exact ⟨tree :: items, .item ((lead_of_nextItem hnext).trans hblanks) htree hitems,
        Option.bind_eq_some_iff.mpr ⟨store, hdecode, hstore⟩⟩

theorem readRecordItems_of_items (hreads : List.Forall₂ Reads fields entries) {n : Nat} {record value : σ}
    {input rest : Bytes} {items : List Tree} (hitems : Items (n == 0) input items rest)
    (hstore : storeItems entries items record = some value) :
    readRecordItems fields n record input = .ok (value, rest) := by
  induction hreads generalizing n record input items with
  | nil =>
    cases hitems with
    | close hclose =>
      obtain rfl := Option.some.inj hstore
      exact bind_eq_ok_iff.mpr ⟨_, malformed_eq_ok_iff.mpr (closeRecord_eq_ok_iff.mpr hclose), rfl⟩
    | item => cases hstore
  | cons hread _ ih =>
    cases hitems with
    | close hclose =>
      rw [storeItems] at hstore
      obtain rfl := Option.some.inj hstore
      exact bind_eq_ok_iff.mpr ⟨_, malformed_eq_ok_iff.mpr (nextItem_eq_end_iff.mpr hclose), rfl⟩
    | item hlead hvalue hitems =>
      obtain ⟨store, hdecode, hstore⟩ := Option.bind_eq_some_iff.mp hstore
      have hread := hread.decodes.complete (.refl _) hvalue hitems.endsNumeral hdecode
      obtain ⟨b, tail, rfl, hb⟩ := hvalue.exists_start
      refine bind_eq_ok_iff.mpr ⟨_, malformed_eq_ok_iff.mpr (hlead.nextItem_eq hb), ?_⟩
      exact bind_eq_ok_iff.mpr ⟨_, within_eq_ok_iff.mpr hread, ih hitems hstore⟩

/-! ### Records -/

theorem readRecord_eq_ok_iff (hreads : List.Forall₂ Reads fields entries) (hentries : Independent entries)
    {title : String} {default value : σ} {input rest : Bytes} :
    readRecord title fields default input = .ok (value, rest) ↔
      ∃ start tree, Blanks input start ∧ Value start tree rest ∧ record? entries default tree = some value := by
  constructor
  · intro h
    unfold readRecord at h
    dsimp only at h
    split at h
    case h_1 b after hinput =>
      have hblanks := (skipBlanks_eq_cons_iff.mp hinput).1
      split_ifs at h with hopen hbrace
      · obtain rfl := isByte_iff.mp hopen
        obtain ⟨items, hitems, hstore⟩ := items_of_readRecordItems hreads h
        exact ⟨_, _, hblanks, .array hitems, (record?_array_eq_some_iff hentries).mpr hstore⟩
      · obtain rfl := isByte_iff.mp hbrace
        obtain ⟨members, hmembers, hnodup, -, hstore⟩ := members_of_readRecordMembers hreads h
        exact ⟨_, _, hblanks, .object hmembers, (record?_object_eq_some_iff hentries).mpr ⟨hnodup, hstore⟩⟩
      · exact absurd h refuseType_ne_ok
    case h_2 => exact absurd h refuseType_ne_ok
  · rintro ⟨start, tree, hblanks, hvalue, hrecord⟩
    cases hvalue with
    | array hitems =>
      simp only [readRecord, skipBlanks_eq_cons_iff.mpr ⟨hblanks, by decide⟩]
      exact readRecordItems_of_items hreads hitems ((record?_array_eq_some_iff hentries).mp hrecord)
    | object hmembers =>
      obtain ⟨hnodup, hstore⟩ := (record?_object_eq_some_iff hentries).mp hrecord
      simp only [readRecord, skipBlanks_eq_cons_iff.mpr ⟨hblanks, by decide⟩]
      rw [if_neg (by decide)]
      exact readRecordMembers_of_members hreads hmembers hnodup (fun _ _ => List.not_mem_nil) hstore
        (Nat.lt_succ_of_le (Nat.le_of_add_right_le hmembers.length_add_le))
    | _ => cases hrecord

end Specimen.Settings
