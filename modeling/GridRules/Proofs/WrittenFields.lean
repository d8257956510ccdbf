import GridRules.Proofs.DecodeProblems
import GridRules.Proofs.DistinctKeys
import Mathlib.Data.List.DropRight
/-!
Reading again what was written. A model is written with its fields under their names, those without
a value left out, so it can be read again if each field that is left out has null for its default.
Each decoder has one law, and the law of a model is put together from the laws of its fields.
-/

namespace GridRules

/-- What is read and then written is read again just if `kept` holds of it, and then as the same. -/
def RereadsIff {α : Type} (decode : Value → Decoded α) (write : α → Value) (kept : α → Prop) :
    Prop :=
  ∀ ⦃v a⦄, decode v = .ok a → ∀ p, (decode (write a)).Gives p ↔ kept a ∧ p a

theorem RereadsIff.congr {α : Type} {decode : Value → Decoded α} {write : α → Value}
    {kept same : α → Prop} (rereads : RereadsIff decode write kept)
    (h : ∀ a, kept a ↔ same a) : RereadsIff decode write same := by
  intro v a hd p
  rw [rereads hd p, h a]

/-- What is read and then written is read again as the same. -/
abbrev Rereads {α : Type} (decode : Value → Decoded α) (write : α → Value) : Prop :=
  RereadsIff decode write fun _ => True

section Written

variable {fields : Entries} {name : String} {v : Value}

/-- The fields that are written: those that have a value. -/
def writtenFields (fields : Entries) : Entries :=
  fields.filter fun entry => !entry.2.isNull

theorem modelValue_false (fields : Entries) :
    modelValue false fields = .object (writtenFields fields) :=
  rfl

@[simp] theorem modelValue_ne_null (full : Bool) (fields : Entries) :
    modelValue full fields ≠ .null := by
  simp [modelValue]

theorem optionalValue_eq_null_iff {α : Type} {write : α → Value} (solid : ∀ a, write a ≠ .null)
    {o : Option α} : optionalValue write o = .null ↔ o = none := by
  cases o <;> simp [optionalValue, solid]

theorem keys_writtenFields (fields : Entries) : (writtenFields fields).keys.Sublist fields.keys :=
  List.filter_sublist.map _

theorem get?_writtenFields (distinct : fields.keys.Nodup) (h : fields.get? name = some v)
    (hv : v ≠ .null) : (writtenFields fields).get? name = some v := by
  have written : (name, v) ∈ writtenFields fields := by
    refine List.mem_filter.mpr ⟨Assoc.mem_of_get? h, ?_⟩
    cases v <;> simp_all [Value.isNull]
  exact Assoc.get?_of_mem (distinct.sublist (keys_writtenFields fields)) written

theorem get?_writtenFields_null (distinct : fields.keys.Nodup)
    (h : fields.get? name = some .null) : (writtenFields fields).get? name = none := by
  refine Assoc.get?_eq_none_iff.mpr fun hm => ?_
  obtain ⟨value, hvalue⟩ := Assoc.mem_keys.mp hm
  obtain ⟨hfields, solid⟩ := List.mem_filter.mp hvalue
  have hnull : value = .null := by
    have := (Assoc.get?_of_mem distinct hfields).symm.trans h
    exact Option.some.inj this
  simp [hnull, Value.isNull] at solid

end Written

/-- Names that fields can be written under: no name twice, and none that has underscores. -/
def PlainNames (names : List String) : Prop :=
  names.Nodup ∧ ∀ name ∈ names, '_' ∉ name.toList

instance (names : List String) : Decidable (PlainNames names) :=
  inferInstanceAs (Decidable (_ ∧ _))

namespace Decode

section Plain

variable {es : Entries} {name : String}

/-- A name without underscores is its own spelling with underscores, or that has some. -/
theorem eq_of_snakeCase_plain (h : '_' ∉ (snakeCase name).toList) : snakeCase name = name := by
  have hc : ∀ c ∈ name.toList, c.isUpper = false := by
    intro c hc
    by_contra hu
    apply h
    rw [snakeCase, String.toList_ofList]
    exact List.mem_flatMap.mpr ⟨c, hc, by simp [hu]⟩
  have hsame : (name.toList.flatMap fun c => if c.isUpper then ['_', c.toLower] else [c]) =
      name.toList.flatMap fun c => [c] :=
    List.flatMap_congr fun c hm => by simp [hc c hm]
  rw [snakeCase, hsame, List.flatMap_singleton', String.ofList_toList]

/-- Where no key has an underscore, every field is found under its name. -/
theorem find?_of_plain (plain : ∀ key ∈ es.keys, '_' ∉ key.toList) :
    find? es name = es.get? name := by
  rw [find?_eq_or]
  cases hname : es.get? name with
  | some v => rfl
  | none =>
    have hsnake : es.get? (snakeCase name) = none := by
      refine Assoc.get?_eq_none_iff.mpr fun hm => ?_
      rw [eq_of_snakeCase_plain (plain _ hm)] at hm
      exact Assoc.get?_eq_none_iff.mp hname hm
    rw [hsnake]
    rfl

end Plain

section Read

variable {α : Type} {decode : Value → Decoded α} {es : Entries} {name : String} {a : α}

theorem exists_of_required (h : required es name decode = .ok a) : ∃ v, decode v = .ok a := by
  unfold required at h
  split at h
  next v _ => exact ⟨v, Decoded.under_eq_ok_iff.mp h⟩
  next => cases h

theorem exists_of_field {default : α} (given : ∃ v, decode v = .ok default)
    (h : field es name default decode = .ok a) : ∃ v, decode v = .ok a := by
  unfold field at h
  split at h
  next v _ => exact ⟨v, Decoded.under_eq_ok_iff.mp h⟩
  next =>
    cases h
    exact given

theorem exists_of_anyOf {kinds : List (String × (Value → Decoded α))} {v : Value}
    (h : anyOf kinds v = .ok a) : ∃ kind ∈ kinds, kind.2 v = .ok a := by
  induction kinds with
  | nil => cases h
  | cons kind rest ih =>
    unfold anyOf at h
    split at h
    next b hb =>
      cases h
      exact ⟨kind, List.mem_cons_self, Decoded.under_eq_ok_iff.mp hb⟩
    next =>
      split at h
      next b hb =>
        cases h
        obtain ⟨later, hm, hl⟩ := ih hb
        exact ⟨later, List.mem_cons_of_mem _ hm, hl⟩
      next => cases h

/-- The first kind that fits counts. -/
theorem anyOf_eq_ok {kind : String} {decode : Value → Decoded α} {v : Value}
    (front rest : List (String × (Value → Decoded α)))
    (none : ∀ earlier ∈ front, ∃ problems, earlier.2 v = .failed problems)
    (h : decode v = .ok a) : anyOf (front ++ (kind, decode) :: rest) v = .ok a := by
  induction front with
  | nil => simp [anyOf, h, Decoded.under]
  | cons earlier front ih =>
    obtain ⟨⟨problems, hp⟩, hfront⟩ := List.forall_mem_cons.mp none
    simp [anyOf, hp, Decoded.under, ih hfront]

theorem exists_of_tagged {field : String} {kinds : List (String × (Value → Decoded α))} {v : Value}
    (h : tagged field kinds v = .ok a) : ∃ kind ∈ kinds, kind.2 v = .ok a := by
  unfold tagged at h
  split at h
  next =>
    split at h
    next => cases h
    next tag _ =>
      split at h
      next decode hd =>
        obtain ⟨s, _, hs⟩ := Option.bind_eq_some_iff.mp hd
        obtain ⟨front, back, rfl, _⟩ := List.lookup_eq_some_iff.mp hs
        exact ⟨(s, decode), by simp, Decoded.under_eq_ok_iff.mp h⟩
      next => cases h
  next => cases h

end Read

section Reread

variable {α : Type} {decode : Value → Decoded α} {write : α → Value} {kept : α → Prop}

/-- A model that has written its fields knows all keys it finds. -/
theorem gives_closed {names : List String} {fields : Entries} {model : String}
    {read : Entries → Decoded α} {p : α → Prop} (keys : fields.keys = names) :
    (closed model names read (modelValue false fields)).Gives p ↔
      (read (writtenFields fields)).Gives p := by
  have known : unknownKeys (writtenFields fields) names = [] := by
    rw [unknownKeys, List.map_eq_nil_iff, List.filter_eq_nil_iff]
    intro key hk
    have hname : key ∈ names := keys ▸ (keys_writtenFields fields).subset hk
    have spelled : spelling? (writtenFields fields) key = some key :=
      if_pos (Assoc.has_iff.mpr hk)
    simpa using ⟨key, hname, spelled⟩
  rw [modelValue_false, closed, known]
  cases read (writtenFields fields) <;> simp [Decoded.Gives, Decoded.also]

/-- A model rereads what it writes if it does so field by field. -/
theorem rereadsIff_closed {names : List String} {model : String} {read : Entries → Decoded α}
    {fields : α → Entries} (plain : PlainNames names) (keys : ∀ a, (fields a).keys = names)
    (each : ∀ es a, PlainNames (fields a).keys → (read es).Gives (· = a) →
      ∀ p, (read (writtenFields (fields a))).Gives p ↔ kept a ∧ p a) :
    RereadsIff (closed model names read) (fun a => modelValue false (fields a)) kept := by
  intro v a h p
  obtain ⟨es, hes⟩ := exists_of_closed h
  exact (gives_closed (keys a)).trans
    (each es a (by rwa [keys a]) (Decoded.gives_eq_iff.mpr hes) p)

/-- The same for a model whose fields are put together by a check. -/
theorem rereadsIff_refine {β : Type} {names : List String} {model : String}
    {read : Entries → Decoded β} {check : β → Except String α} {fields : α → Entries}
    (plain : PlainNames names) (keys : ∀ a, (fields a).keys = names)
    (each : ∀ es a, PlainNames (fields a).keys → (read es).Gives (fun b => check b = .ok a) →
      ∀ p : α → Prop, (read (writtenFields (fields a))).Gives (fun b => ∃ c, check b = .ok c ∧ p c) ↔
        kept a ∧ p a) :
    RereadsIff (fun v => (closed model names read v).refine check)
      (fun a => modelValue false (fields a)) kept := by
  intro v a h p
  obtain ⟨b, hb, c, hc, hca⟩ := Decoded.gives_refine.mp (Decoded.gives_eq_iff.mpr h)
  obtain rfl : c = a := hca
  obtain ⟨es, hes⟩ := exists_of_closed hb
  exact (Decoded.gives_refine.trans (gives_closed (keys c))).trans
    (each es c (by rwa [keys c]) ⟨b, hes, hc⟩ p)

theorem rereadsIff_nullable (rereads : RereadsIff decode write kept)
    (solid : ∀ a, write a ≠ .null) :
    RereadsIff (nullable decode) (optionalValue write) fun o => ∀ a ∈ o, kept a := by
  intro v o h p
  cases o with
  | none => simp [optionalValue, nullable]
  | some a =>
    have hwrite : nullable decode (write a) = (decode (write a)).map some := by
      unfold nullable
      split
      next he => exact absurd he (solid a)
      next => rfl
    simp [optionalValue, hwrite, rereads (of_nullable_eq_some h)]

section Found

variable {fields es : Entries} {name : String} (plain : PlainNames fields.keys)

include plain

theorem find?_writtenFields {v : Value} (h : fields.get? name = some v) (hv : v ≠ .null) :
    find? (writtenFields fields) name = some v := by
  rw [find?_of_plain fun key hk => plain.2 key ((keys_writtenFields fields).subset hk),
    get?_writtenFields plain.1 h hv]

theorem find?_writtenFields_null (h : fields.get? name = some .null) :
    find? (writtenFields fields) name = none := by
  rw [find?_of_plain fun key hk => plain.2 key ((keys_writtenFields fields).subset hk),
    get?_writtenFields_null plain.1 h]

theorem gives_required {a : α} (h : required es name decode = .ok a)
    (rereads : RereadsIff decode write kept) (solid : ∀ a, write a ≠ .null)
    (written : fields.get? name = some (write a)) {p : α → Prop} :
    (required (writtenFields fields) name decode).Gives p ↔ kept a ∧ p a := by
  obtain ⟨v, hv⟩ := exists_of_required h
  rw [required, find?_writtenFields plain written (solid a)]
  exact Decoded.gives_under.trans (rereads hv p)

/-- A field that is left out is read as its default, so only the default may be written as null. -/
theorem gives_field {a default : α} (h : field es name default decode = .ok a)
    (rereads : RereadsIff decode write kept) (given : ∃ v, decode v = .ok default)
    (solid : ∀ a, write a = .null → default = a ∧ kept a)
    (written : fields.get? name = some (write a)) {p : α → Prop} :
    (field (writtenFields fields) name default decode).Gives p ↔ kept a ∧ p a := by
  obtain ⟨v, hv⟩ := exists_of_field given h
  rw [field]
  by_cases hnull : write a = .null
  · obtain ⟨rfl, hk⟩ := solid a hnull
    rw [find?_writtenFields_null plain (written.trans (congrArg some hnull))]
    simp [hk]
  · rw [find?_writtenFields plain written hnull]
    exact Decoded.gives_under.trans (rereads hv p)

theorem gives_optional {o : Option α} (h : optional es name decode = .ok o)
    (rereads : RereadsIff decode write kept) (solid : ∀ a, write a ≠ .null)
    (written : fields.get? name = some (optionalValue write o)) {p : Option α → Prop} :
    (optional (writtenFields fields) name decode).Gives p ↔ (∀ a ∈ o, kept a) ∧ p o := by
  refine gives_field plain h (rereadsIff_nullable rereads solid) ⟨.null, rfl⟩ ?_ written
  intro o hnull
  obtain rfl := (optionalValue_eq_null_iff solid).mp hnull
  simp

end Found

/-- A model that has one field, with a value. -/
theorem closed_single {β : Type} {model key : String} {make : α → β} {v : Value} {a : α}
    (plain : PlainNames [key]) (solid : v ≠ .null) (h : decode v = .ok a) :
    closed model [key] (fun es => make <$> required es key decode) (modelValue false [(key, v)]) =
      .ok (make a) := by
  have keys : Assoc.keys [(key, v)] = [key] := rfl
  have hfound : find? (writtenFields [(key, v)]) key = some v :=
    find?_writtenFields (keys ▸ plain) (by simp [Assoc.get?_cons]) solid
  rw [← Decoded.gives_eq_iff, gives_closed keys, Decoded.gives_fmap, required, hfound]
  simp [h]

theorem rereadsIff_list (rereads : RereadsIff decode write kept) :
    RereadsIff (list decode) (fun as => .list (as.map write)) fun as => ∀ a ∈ as, kept a := by
  have each {values : List Value} {i : Nat} {as : List α} (h : items decode i values = .ok as)
      (j : Nat) (p : List α → Prop) :
      (items decode j (as.map write)).Gives p ↔ (∀ a ∈ as, kept a) ∧ p as := by
    induction values generalizing i j as p with
    | nil =>
      cases h
      simp [items]
    | cons v values ih =>
      rw [items] at h
      obtain ⟨g, rest, hg, hrest, rfl⟩ := Decoded.combine_eq_ok_iff.mp h
      obtain ⟨first, hfirst, rfl⟩ := Decoded.map_eq_ok_iff.mp hg
      have hv := rereads (Decoded.under_eq_ok_iff.mp hfirst)
      simp [items, hv, ih hrest, and_assoc]
  intro v as h
  unfold list at h
  split at h
  next => exact each h 0
  next => cases h

theorem rereadsIff_dictionary (rereads : RereadsIff decode write kept) :
    RereadsIff (dictionary decode) (fun as => .object (as.map fun entry => (entry.1, write entry.2)))
      fun as => ∀ a ∈ as.map (·.2), kept a := by
  have each {es : Entries} {as : Assoc α} (h : entries decode es = .ok as) (p : Assoc α → Prop) :
      (entries decode (as.map fun entry => (entry.1, write entry.2))).Gives p ↔
        (∀ a ∈ as.map (·.2), kept a) ∧ p as := by
    induction es generalizing as p with
    | nil =>
      cases h
      simp [entries]
    | cons entry es ih =>
      rw [entries] at h
      obtain ⟨g, rest, hg, hrest, rfl⟩ := Decoded.combine_eq_ok_iff.mp h
      obtain ⟨first, hfirst, rfl⟩ := Decoded.map_eq_ok_iff.mp hg
      have hv := rereads (Decoded.under_eq_ok_iff.mp hfirst)
      rw [List.map_cons, List.map_cons, List.forall_mem_cons]
      simp only [entries, Decoded.gives_combine, Decoded.gives_map, Decoded.gives_under, hv,
        ih hrest, and_assoc]
  intro v as h
  unfold dictionary at h
  split at h
  next => exact each h
  next => cases h

end Reread

section Tagged

variable {α β : Type} {write : α → Value} {kept : α → Prop} {field : String}

/-- A model of one kind writes its tag first, and it rereads what it writes. -/
def RereadsKind (field : String) (write : α → Value) (kept : α → Prop)
    (kind : String × (Value → Decoded α)) : Prop :=
  RereadsIff kind.2 write kept ∧ ∀ ⦃v a⦄, kind.2 v = .ok a →
    ∃ rest, write a = modelValue false ((field, .str kind.1) :: rest)

theorem rereadsKind_map {tag : String} {decode : Value → Decoded β} {make : β → α}
    (rereads : RereadsIff decode (fun b => write (make b)) fun b => kept (make b))
    (tagged : ∀ b, ∃ rest, write (make b) = modelValue false ((field, .str tag) :: rest)) :
    RereadsKind field write kept (tag, fun v => (decode v).map make) := by
  refine ⟨fun v a h p => ?_, fun v a h => ?_⟩ <;>
    obtain ⟨b, hb, rfl⟩ := Decoded.map_eq_ok_iff.mp h
  · exact Decoded.gives_map.trans (rereads hb fun b => p (make b))
  · exact tagged b

theorem rereadsIff_tagged {kinds : List (String × (Value → Decoded α))}
    (distinct : (Assoc.keys kinds).Nodup)
    (each : ∀ kind ∈ kinds, RereadsKind field write kept kind) :
    RereadsIff (tagged field kinds) write kept := by
  intro v a h p
  obtain ⟨⟨tag, decode⟩, hm, hd⟩ := exists_of_tagged h
  obtain ⟨rereads, named⟩ := each _ hm
  obtain ⟨rest, hw⟩ := named hd
  have hl : kinds.lookup tag = some decode := Assoc.get?_of_mem distinct hm
  have ht : (writtenFields ((field, .str tag) :: rest)).get? field = some (.str tag) := by
    simp [writtenFields, Value.isNull, Assoc.get?_cons]
  rw [← rereads hd p, hw]
  simp only [Decoded.Gives, modelValue_false, tagged_eq_ok_iff ht, hl]
  simp

end Tagged

theorem rereads_any : Rereads any id := by
  intro v a h p
  simp [any]

theorem rereads_text : Rereads text .str := by
  intro v s h p
  simp [text]

theorem rereads_boolean : Rereads boolean .bool := by
  intro v b h p
  simp [boolean]

theorem rereads_number : Rereads number .float := by
  intro v x h p
  have hx : number (.float x) = .ok x := rfl
  simp only [hx, Decoded.gives_ok, true_and]

theorem rereads_rawObject : Rereads rawObject .object := by
  intro v es h p
  simp [rawObject]

theorem rereads_positiveInteger : Rereads positiveInteger fun n => .int n.1 := by
  intro v n h p
  simp [positiveInteger, integer, n.2]

theorem trimList_trimList (p : Char → Bool) (cs : List Char) :
    trimList p (trimList p cs) = trimList p cs := by
  have hr (l : List Char) : (l.reverse.dropWhile p).reverse = l.rdropWhile p := rfl
  have hdrop : ((cs.dropWhile p).rdropWhile p).dropWhile p = (cs.dropWhile p).rdropWhile p := by
    refine List.dropWhile_eq_self_iff.mpr fun hl => ?_
    have hfront := List.rdropWhile_prefix p (cs.dropWhile p)
    have hlen := hl.trans_le hfront.length_le
    have hhead := List.dropWhile_get_zero_not p cs hlen
    simpa [hfront.getElem hl] using hhead
  simp only [trimList, hr, hdrop, List.rdropWhile_idempotent]

/-- A name that was read once is trimmed already. -/
theorem nonEmpty_of_nonEmpty {v : Value} {s : String} (h : nonEmpty v = .ok s) :
    nonEmpty (.str s) = .ok s := by
  unfold nonEmpty at h
  split at h
  next t =>
    dsimp only at h
    split at h
    next => cases h
    next hne =>
      cases h
      simp only [nonEmpty, String.toList_ofList, trimList_trimList, if_neg hne]
  next => cases h

theorem rereads_nonEmpty : Rereads nonEmpty .str := by
  intro v s h p
  simp [nonEmpty_of_nonEmpty h]

theorem rereads_oneOf {α : Type} {choices : List (String × α)} {name : α → String}
    (named : ∀ choice ∈ choices, choices.lookup (name choice.2) = some choice.2) :
    Rereads (oneOf choices) fun a => .str (name a) := by
  intro v a h p
  unfold oneOf at h
  split at h
  next b hb =>
    cases h
    obtain ⟨s, _, hs⟩ := Option.bind_eq_some_iff.mp hb
    obtain ⟨front, back, rfl, _⟩ := List.lookup_eq_some_iff.mp hs
    simp [oneOf, Value.string?, named (s, a) (by simp)]
  next => cases h

end Decode

end GridRules
