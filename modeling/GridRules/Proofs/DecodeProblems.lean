import GridRules.Options.NodeConfig

namespace GridRules

namespace Decoded

variable {α β : Type}

theorem map_eq_ok_iff {f : α → β} {decoded : Decoded α} {b : β} :
    decoded.map f = .ok b ↔ ∃ a, decoded = .ok a ∧ f a = b := by
  cases decoded <;> simp [map]

theorem combine_eq_ok_iff {f : Decoded (α → β)} {decoded : Decoded α} {b : β} :
    f.combine decoded = .ok b ↔ ∃ g a, f = .ok g ∧ decoded = .ok a ∧ g a = b := by
  cases f <;> cases decoded <;> simp [combine]

theorem under_eq_ok_iff {key : String} {decoded : Decoded α} {a : α} :
    decoded.under key = .ok a ↔ decoded = .ok a := by
  cases decoded <;> simp [under]

theorem eq_ok_of_also {decoded : Decoded α} {more : List Problem} {a : α}
    (h : decoded.also more = .ok a) : decoded = .ok a := by
  cases decoded with
  | failed problems => cases h
  | ok b =>
    rw [also] at h
    split at h
    next => exact h
    next => cases h

/-- What is decoded has no problems, and the property. -/
def Gives (decoded : Decoded α) (p : α → Prop) : Prop :=
  ∃ a, decoded = .ok a ∧ p a

theorem gives_eq_iff {decoded : Decoded α} {a : α} : decoded.Gives (· = a) ↔ decoded = .ok a := by
  simp [Gives]

@[simp] theorem gives_ok {a : α} {p : α → Prop} : (ok a).Gives p ↔ p a := by
  simp [Gives]

@[simp] theorem gives_map {f : α → β} {decoded : Decoded α} {p : β → Prop} :
    (decoded.map f).Gives p ↔ decoded.Gives fun a => p (f a) := by
  cases decoded <;> simp [Gives, map]

@[simp] theorem gives_combine {f : Decoded (α → β)} {decoded : Decoded α} {p : β → Prop} :
    (f.combine decoded).Gives p ↔ f.Gives fun g => decoded.Gives fun a => p (g a) := by
  cases f <;> cases decoded <;> simp [Gives, combine]

@[simp] theorem gives_fmap {f : α → β} {decoded : Decoded α} {p : β → Prop} :
    (f <$> decoded).Gives p ↔ decoded.Gives fun a => p (f a) :=
  gives_map

@[simp] theorem gives_seq {f : Decoded (α → β)} {decoded : Decoded α} {p : β → Prop} :
    (f <*> decoded).Gives p ↔ f.Gives fun g => decoded.Gives fun a => p (g a) :=
  gives_combine

@[simp] theorem gives_under {key : String} {decoded : Decoded α} {p : α → Prop} :
    (decoded.under key).Gives p ↔ decoded.Gives p := by
  simp [Gives, under_eq_ok_iff]

theorem gives_refine {f : α → Except String β} {decoded : Decoded α} {p : β → Prop} :
    (decoded.refine f).Gives p ↔ decoded.Gives fun a => ∃ b, f a = .ok b ∧ p b := by
  cases decoded with
  | failed problems => simp [Gives, refine]
  | ok a => cases h : f a <;> simp [Gives, refine, complain, h]

/-- What cannot be decoded has something wrong with it. -/
def Explained (decoded : Decoded α) : Prop :=
  decoded ≠ .failed []

theorem Explained.ne_nil {decoded : Decoded α} {problems : List Problem}
    (explained : decoded.Explained) (h : decoded = .failed problems) : problems ≠ [] := by
  rintro rfl
  exact explained h

@[simp] theorem explained_ok (a : α) : (ok a).Explained := by
  simp [Explained]

@[simp] theorem explained_complain (complaint : Complaint) :
    (complain complaint : Decoded α).Explained := by
  simp [Explained, complain]

@[simp] theorem Explained.ite {c : Prop} [Decidable c] {a b : Decoded α} (ha : a.Explained)
    (hb : b.Explained) : (if c then a else b).Explained := by
  split <;> assumption

@[simp] theorem explained_map_iff {f : α → β} {decoded : Decoded α} :
    (decoded.map f).Explained ↔ decoded.Explained := by
  cases decoded <;> simp [Explained, map]

@[simp] theorem explained_under_iff {key : String} {decoded : Decoded α} :
    (decoded.under key).Explained ↔ decoded.Explained := by
  cases decoded <;> simp [Explained, under]

theorem Explained.combine {f : Decoded (α → β)} {decoded : Decoded α} (hf : f.Explained)
    (h : decoded.Explained) : (f.combine decoded).Explained := by
  cases f <;> cases decoded <;> simp_all [Explained, Decoded.combine]

theorem Explained.fmap {f : α → β} {decoded : Decoded α} (h : decoded.Explained) :
    (f <$> decoded).Explained :=
  explained_map_iff.mpr h

theorem Explained.seq {f : Decoded (α → β)} {decoded : Decoded α} (hf : f.Explained)
    (h : decoded.Explained) : (f <*> decoded).Explained :=
  hf.combine h

theorem Explained.also {decoded : Decoded α} (h : decoded.Explained) (more : List Problem) :
    (decoded.also more).Explained := by
  cases decoded with
  | failed problems => simp_all [Explained, Decoded.also]
  | ok a =>
    rw [Decoded.also]
    split
    next => simp
    next hn => simpa [Explained] using hn

end Decoded

namespace Decode

variable {α : Type} {decode : Value → Decoded α}

theorem ne_empty_of_nonEmpty {v : Value} {s : String} (h : nonEmpty v = .ok s) : s ≠ "" := by
  unfold nonEmpty at h
  split at h
  next =>
    dsimp only at h
    split at h
    next => cases h
    next hne =>
      cases h
      exact hne
  next => cases h

theorem of_mem_items {values : List Value} {i : Nat} {as : List α}
    (h : items decode i values = .ok as) : ∀ a ∈ as, ∃ v, decode v = .ok a := by
  induction values generalizing i as with
  | nil =>
    cases h
    nofun
  | cons v rest ih =>
    rw [items] at h
    obtain ⟨g, others, hg, hrest, rfl⟩ := Decoded.combine_eq_ok_iff.mp h
    obtain ⟨first, hfirst, rfl⟩ := Decoded.map_eq_ok_iff.mp hg
    intro a ha
    obtain rfl | ha := List.mem_cons.mp ha
    · exact ⟨v, Decoded.under_eq_ok_iff.mp hfirst⟩
    · exact ih hrest a ha

theorem of_mem_list {v : Value} {as : List α} (h : list decode v = .ok as) :
    ∀ a ∈ as, ∃ v, decode v = .ok a := by
  unfold list at h
  split at h
  next => exact of_mem_items h
  next => cases h

theorem of_nullable_eq_some {v : Value} {a : α} (h : nullable decode v = .ok (some a)) :
    decode v = .ok a := by
  unfold nullable at h
  split at h
  next => cases h
  next =>
    obtain ⟨b, hb, hsome⟩ := Decoded.map_eq_ok_iff.mp h
    exact Option.some.inj hsome ▸ hb

theorem of_optional_eq_some {es : Entries} {name : String} {a : α}
    (h : optional es name decode = .ok (some a)) : ∃ v, decode v = .ok a := by
  unfold optional field at h
  split at h
  next v _ => exact ⟨v, of_nullable_eq_some (Decoded.under_eq_ok_iff.mp h)⟩
  next => cases h

theorem tagged_eq_ok_iff {field tag : String} {es : Entries}
    {kinds : List (String × (Value → Decoded α))} {a : α}
    (h : Assoc.get? es field = some (.str tag)) :
    tagged field kinds (.object es) = .ok a ↔
      ∃ decode, kinds.lookup tag = some decode ∧ decode (.object es) = .ok a := by
  cases hk : kinds.lookup tag <;>
    simp [tagged, h, Value.string?, hk, Decoded.complain, Decoded.under_eq_ok_iff]

/-- The value of a field is that under its name, or else that under the other spelling. -/
theorem find?_eq_or (es : Entries) (name : String) :
    find? es name = (es.get? name).or (es.get? (snakeCase name)) := by
  unfold find? spelling? Assoc.has
  cases hname : es.get? name with
  | some v => simp [hname]
  | none => cases hsnake : es.get? (snakeCase name) <;> simp [hsnake]

theorem exists_of_closed {model : String} {names : List String} {decode : Entries → Decoded α}
    {v : Value} {a : α} (h : closed model names decode v = .ok a) : ∃ es, decode es = .ok a := by
  unfold closed at h
  split at h
  next es => exact ⟨es, Decoded.eq_ok_of_also h⟩
  next => cases h

@[simp] theorem explained_any (v : Value) : (any v).Explained :=
  Decoded.explained_ok v

@[simp] theorem explained_text (v : Value) : (text v).Explained := by
  cases v <;> simp [text]

@[simp] theorem explained_nonEmpty (v : Value) : (nonEmpty v).Explained := by
  unfold nonEmpty
  split <;> simp

@[simp] theorem explained_boolOfInt (n : Int) : (boolOfInt n).Explained := by
  simp [boolOfInt]

@[simp] theorem explained_boolean (v : Value) : (boolean v).Explained := by
  cases v with
  | float x => cases h : x.toInt? <;> simp [boolean, h]
  | _ => simp [boolean]

@[simp] theorem explained_integerText (s : String) : (integerText s).Explained := by
  simp [integerText]

@[simp] theorem explained_integer (v : Value) : (integer v).Explained := by
  cases v with
  | float x => cases h : x.toInt? <;> simp [integer, h]
  | _ => simp [integer]

@[simp] theorem explained_positiveInteger (v : Value) : (positiveInteger v).Explained := by
  have h := explained_integer v
  cases hi : integer v with
  | ok n => by_cases hn : 0 < n.toNat <;> simp [positiveInteger, hi, hn]
  | failed problems => simpa [Decoded.Explained, positiveInteger, hi] using h

@[simp] theorem explained_oneOf (choices : List (String × α)) (v : Value) :
    (oneOf choices v).Explained := by
  unfold oneOf
  split <;> simp

@[simp] theorem explained_rawObject (v : Value) : (rawObject v).Explained := by
  cases v <;> simp [rawObject]

@[simp] theorem explained_nullable (h : ∀ v, (decode v).Explained) (v : Value) :
    (nullable decode v).Explained := by
  unfold nullable
  split <;> simp [h]

@[simp] theorem explained_list (h : ∀ v, (decode v).Explained) (v : Value) :
    (list decode v).Explained := by
  have each (i : Nat) (values : List Value) : (items decode i values).Explained := by
    induction values generalizing i with
    | nil => simp [items]
    | cons v values ih => exact .combine (by simp [h]) (ih (i + 1))
  unfold list
  split
  next => exact each 0 _
  next => simp

@[simp] theorem explained_dictionary (h : ∀ v, (decode v).Explained) (v : Value) :
    (dictionary decode v).Explained := by
  have each (es : Entries) : (entries decode es).Explained := by
    induction es with
    | nil => simp [entries]
    | cons entry es ih => exact .combine (by simp [h]) ih
  unfold dictionary
  split
  next => exact each _
  next => simp

@[simp] theorem explained_required (h : ∀ v, (decode v).Explained) (es : Entries) (name : String) :
    (required es name decode).Explained := by
  unfold required
  split
  next => simp [h]
  next => simp [Decoded.Explained]

@[simp] theorem explained_field (h : ∀ v, (decode v).Explained) (es : Entries) (name : String)
    (default : α) : (field es name default decode).Explained := by
  unfold field
  split <;> simp [h]

@[simp] theorem explained_optional (h : ∀ v, (decode v).Explained) (es : Entries) (name : String) :
    (optional es name decode).Explained :=
  explained_field (explained_nullable h) es name none

@[simp] theorem explained_closed {decode : Entries → Decoded α} (h : ∀ es, (decode es).Explained)
    (model : String) (names : List String) (v : Value) :
    (closed model names decode v).Explained := by
  unfold closed
  split
  next => exact (h _).also _
  next => simp

/-- The first kind that does not fit is enough to say what is wrong. -/
theorem explained_anyOf {kind : String} (h : ∀ v, (decode v).Explained)
    (rest : List (String × (Value → Decoded α))) (v : Value) :
    (anyOf ((kind, decode) :: rest) v).Explained := by
  unfold anyOf
  split
  next => simp
  next problems hp =>
    have hne : problems ≠ [] := (Decoded.explained_under_iff.mpr (h v)).ne_nil hp
    split
    next => simp
    next => simp [Decoded.Explained, hne]

@[simp] theorem explained_kind (es : Entries) (kind : String) : (decodeKind es kind).Explained := by
  simp [decodeKind]

end Decode

@[simp] theorem Selector.explained_decode (v : Value) : (Selector.decode v).Explained :=
  Decode.explained_anyOf (by simp [Selector.decodePath]) _ v

theorem Source.explained_decodeHttpGetWith {path : Entries → Decoded String}
    (h : ∀ es, (path es).Explained) (v : Value) : (Source.decodeHttpGetWith path v).Explained := by
  refine Decode.explained_closed (fun es => ?_) _ _ v
  apply_rules [Decoded.Explained.seq, Decoded.Explained.fmap] <;> simp

@[simp] theorem FilterPredicate.explained_decode (v : Value) :
    (FilterPredicate.decode v).Explained := by
  refine Decode.explained_closed (fun es => ?_) _ _ v
  apply_rules [Decoded.Explained.seq, Decoded.Explained.fmap] <;> simp

@[simp] theorem OutputMapping.explained_decode (v : Value) :
    (OutputMapping.decode v).Explained := by
  refine Decode.explained_closed (fun es => ?_) _ _ v
  apply_rules [Decoded.Explained.seq, Decoded.Explained.fmap] <;> simp

namespace NodeConfig

variable {kind : NodeKind} {v : Value}

/-- A configuration that does not belong to its kind has something wrong with it. -/
theorem explained_decode (kind : NodeKind) (v : Value) : (decode kind v).Explained := by
  cases kind <;> rw [decode, Decoded.explained_map_iff]
  case httpGet => exact Source.explained_decodeHttpGetWith (by simp) v
  all_goals refine Decode.explained_closed (fun es => ?_) _ _ v
  case start => exact Decoded.explained_ok ()
  case output => exact Decode.explained_required OutputMapping.explained_decode es "mapping"
  all_goals apply_rules [Decoded.Explained.seq, Decoded.Explained.fmap] <;> simp

theorem kind_of_decode {config : NodeConfig} (h : decode kind v = .ok config) :
    config.kind = kind := by
  cases kind <;> obtain ⟨_, _, rfl⟩ := Decoded.map_eq_ok_iff.mp h <;> rfl

end NodeConfig

end GridRules
