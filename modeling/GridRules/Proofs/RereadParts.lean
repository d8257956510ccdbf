import GridRules.Options.GraphSpec
import GridRules.Proofs.WrittenFields

namespace GridRules

open Decode

@[simp] theorem textsValue_ne_null (texts : Assoc String) : textsValue texts ≠ .null := by
  simp [textsValue]

@[simp] theorem selectorsValue_ne_null (full : Bool) (selectors : Assoc Selector) :
    selectorsValue full selectors ≠ .null := by
  simp [selectorsValue]

theorem gives_kind {fields : Entries} {kind : String} {p : Unit → Prop}
    (plain : PlainNames fields.keys) (written : fields.get? "kind" = some (.str kind)) :
    (decodeKind (writtenFields fields) kind).Gives p ↔ p () := by
  rw [decodeKind, required, find?_writtenFields plain written (by simp)]
  simp [oneOf, Value.string?]

/-- A model that has its kind and one other field. -/
theorem rereadsIff_kindField {α : Type} {model kind key : String} {decode : Value → Decoded α}
    {write : α → Value} {kept : α → Prop} (plain : PlainNames ["kind", key])
    (rereads : RereadsIff decode write kept) (solid : ∀ a, write a ≠ .null) :
    RereadsIff
      (closed model ["kind", key] fun es =>
        (fun _ a => a) <$> decodeKind es kind <*> required es key decode)
      (fun a => modelValue false [("kind", .str kind), (key, write a)]) kept := by
  have hne : key ≠ "kind" := fun he => by simpa [he] using plain.1
  refine rereadsIff_closed plain (fun _ => rfl) fun es a plain h p => ?_
  simp only [Decoded.gives_seq, Decoded.gives_fmap] at h ⊢
  obtain ⟨_, _, _, ha, rfl⟩ := h
  rw [gives_kind plain rfl, gives_required plain ha rereads solid (by simp [Assoc.get?_cons, hne])]

namespace Selector

@[simp] theorem toValue_ne_null (full : Bool) (selector : Selector) :
    selector.toValue full ≠ .null := by
  cases selector <;> simp [toValue]

/-- The names that selectors hold have been read as such. -/
theorem cases_of_decode {v : Value} {selector : Selector} (h : decode v = .ok selector) :
    (∃ path, selector = .path path) ∨ (∃ value, selector = .const value) ∨
      (∃ name w, selector = .arg name ∧ nonEmpty w = .ok name) ∨
      ∃ path w, selector = .context path ∧ nonEmpty w = .ok path := by
  obtain ⟨kind, hm, hk⟩ := exists_of_anyOf h
  simp only [List.mem_cons, List.not_mem_nil, or_false] at hm
  rcases hm with rfl | rfl | rfl | rfl
  · obtain ⟨path, _, rfl⟩ := Decoded.map_eq_ok_iff.mp hk
    exact .inl ⟨path, rfl⟩
  all_goals
    obtain ⟨es, hes⟩ := exists_of_closed hk
    obtain ⟨x, hx, rfl⟩ := Decoded.map_eq_ok_iff.mp hes
    obtain ⟨w, hw⟩ := exists_of_required hx
  · exact .inr (.inl ⟨x, rfl⟩)
  · exact .inr (.inr (.inl ⟨x, w, rfl, hw⟩))
  · exact .inr (.inr (.inr ⟨x, w, rfl, hw⟩))

theorem decode_const {value : Value} (h : value ≠ .null) :
    decode (toValue false (.const value)) = .ok (.const value) := by
  refine anyOf_eq_ok [("str", decodePath)] _ ?_ (closed_single (by decide) h rfl)
  exact List.forall_mem_singleton.mpr ⟨_, rfl⟩

theorem decode_arg {name : String} (h : nonEmpty (.str name) = .ok name) :
    decode (toValue false (.arg name)) = .ok (.arg name) := by
  refine anyOf_eq_ok [("str", decodePath), ("ConstSelector", decodeConst)] _ ?_
    (closed_single (by decide) (by simp) h)
  simp only [List.forall_mem_cons, List.not_mem_nil, false_implies, implies_true, and_true]
  exact ⟨⟨_, rfl⟩, ⟨_, rfl⟩⟩

theorem decode_context {path : String} (h : nonEmpty (.str path) = .ok path) :
    decode (toValue false (.context path)) = .ok (.context path) := by
  refine anyOf_eq_ok [("str", decodePath), ("ConstSelector", decodeConst),
    ("ArgSelector", decodeArg)] _ ?_ (closed_single (by decide) (by simp) h)
  simp only [List.forall_mem_cons, List.not_mem_nil, false_implies, implies_true, and_true]
  exact ⟨⟨_, rfl⟩, ⟨_, rfl⟩, ⟨_, rfl⟩⟩

theorem rereadsIff : RereadsIff decode (toValue false) (· ≠ .const .null) := by
  intro v selector h p
  obtain ⟨path, rfl⟩ | ⟨value, rfl⟩ | ⟨name, w, rfl, hw⟩ | ⟨path, w, rfl, hw⟩ := cases_of_decode h
  · have hpath : decode (toValue false (.path path)) = .ok (.path path) := rfl
    simp [hpath]
  · by_cases hnull : value = .null
    · -- nothing is left of the object, so no kind fits
      subst hnull
      obtain ⟨problems, hf⟩ : ∃ problems, decode (toValue false (.const .null)) = .failed problems :=
        ⟨_, rfl⟩
      simp [hf, Decoded.Gives]
    · simp [decode_const hnull, hnull]
  · simp [decode_arg (nonEmpty_of_nonEmpty hw)]
  · simp [decode_context (nonEmpty_of_nonEmpty hw)]

end Selector

theorem rereadsIff_selectors :
    RereadsIff (dictionary Selector.decode) (selectorsValue false) fun selectors =>
      .const .null ∉ selectors.map (·.2) :=
  (rereadsIff_dictionary Selector.rereadsIff).congr fun _ => List.forall_mem_ne'

theorem rereads_texts : Rereads (dictionary Decode.text) textsValue :=
  (rereadsIff_dictionary rereads_text).congr (by simp)

namespace OutputMapping

def selectors (mapping : OutputMapping) : List Selector :=
  mapping.label :: mapping.value :: mapping.id.toList ++
    mapping.extra.toList.flatMap fun extra => extra.map (·.2)

theorem rereadsIff :
    RereadsIff decode (toValue false) fun mapping => .const .null ∉ mapping.selectors := by
  refine rereadsIff_closed (by decide) (fun _ => rfl) fun es mapping plain h p => ?_
  simp only [Decoded.gives_seq, Decoded.gives_fmap] at h ⊢
  obtain ⟨label, hl, value, hv, id, hi, extra, he, rfl⟩ := h
  rw [gives_required plain hl Selector.rereadsIff (by simp) rfl,
    gives_required plain hv Selector.rereadsIff (by simp) rfl,
    gives_optional plain hi Selector.rereadsIff (by simp) rfl,
    gives_optional plain he rereadsIff_selectors (by simp) rfl]
  cases id <;> cases extra <;> simp [selectors, and_assoc, eq_comm]

end OutputMapping

namespace Source

@[simp] theorem toValue_ne_null (full : Bool) (source : Source) : source.toValue full ≠ .null := by
  cases source <;> exact modelValue_ne_null full _

theorem rereads_decodeLayoutFields :
    Rereads decodeLayoutFields fun source => toValue false (.layoutFields source) := by
  refine rereadsIff_closed (by decide) (fun _ => rfl) fun es source plain h p => ?_
  simp only [Decoded.gives_seq, Decoded.gives_fmap] at h ⊢
  obtain ⟨_, _, hidden, hh, shared, hs, rfl⟩ := h
  rw [gives_kind plain rfl,
    gives_field plain hh rereads_boolean ⟨.bool false, rfl⟩ (by simp) rfl,
    gives_field plain hs rereads_boolean ⟨.bool true, rfl⟩ (by simp) rfl]
  simp

theorem rereads_decodeHttpGet :
    Rereads decodeHttpGet fun source => toValue false (.httpGet source) := by
  refine rereadsIff_closed (by decide) (fun _ => rfl) fun es source plain h p => ?_
  simp only [Decoded.gives_seq, Decoded.gives_fmap] at h ⊢
  obtain ⟨_, _, connectorId, hc, path, hp, query, hq, headers, hh, responsePath, hr, rfl⟩ := h
  rw [gives_kind plain rfl, gives_required plain hc rereads_nonEmpty (by simp) rfl,
    gives_field plain hp rereads_text ⟨.str "", rfl⟩ (by simp) rfl,
    gives_field plain hq rereads_texts ⟨.object [], rfl⟩ (by simp) rfl,
    gives_field plain hh rereads_texts ⟨.object [], rfl⟩ (by simp) rfl,
    gives_optional plain hr rereads_text (by simp) rfl]
  simp

theorem rereads : Rereads decode (toValue false) := by
  refine rereadsIff_tagged (by decide) ?_
  simp only [List.forall_mem_cons, List.not_mem_nil, false_implies, implies_true, and_true]
  exact ⟨rereadsKind_map (rereadsIff_kindField (by decide) rereads_nonEmpty (by simp))
      fun _ => ⟨_, rfl⟩,
    rereadsKind_map (rereadsIff_kindField (by decide) rereads_nonEmpty (by simp))
      fun _ => ⟨_, rfl⟩,
    rereadsKind_map rereads_decodeLayoutFields fun _ => ⟨_, rfl⟩,
    rereadsKind_map rereads_decodeHttpGet fun _ => ⟨_, rfl⟩⟩

end Source

theorem FilterPredicate.rereads : Rereads decode (toValue false) := by
  refine rereadsIff_closed (by decide) (fun _ => rfl) fun es predicate plain h p => ?_
  simp only [Decoded.gives_seq, Decoded.gives_fmap] at h ⊢
  obtain ⟨field, hf, op, ho, value, hv, fromArg, ha, fromContext, hc, rfl⟩ := h
  rw [gives_required plain hf rereads_nonEmpty (by simp) rfl,
    gives_required plain ho (rereads_oneOf (by decide)) (by simp) rfl,
    gives_field plain hv rereads_any ⟨.null, rfl⟩ (by simp) rfl,
    gives_optional plain ha rereads_nonEmpty (by simp) rfl,
    gives_optional plain hc rereads_nonEmpty (by simp) rfl]
  simp

namespace Transform

def selectors : Transform → List Selector
  | .mapFields mappings => mappings.map (·.2)
  | _ => []

/-- A setting is written as one of two words. -/
theorem rereads_setting {off on : String} (differ : on ≠ off) :
    Rereads (oneOf [(off, false), (on, true)]) fun isOn : Bool => .str (if isOn then on else off) := by
  refine rereads_oneOf fun choice hm => ?_
  obtain rfl | rfl : choice = (off, false) ∨ choice = (on, true) := by simpa using hm
  · simp
  · simp [List.lookup_cons, beq_false_of_ne differ]

theorem rereads_decodeFilter : Rereads decodeFilter fun spec => toValue false (.filter spec) := by
  refine rereadsIff_closed (by decide) (fun _ => rfl) fun es spec plain h p => ?_
  simp only [Decoded.gives_seq, Decoded.gives_fmap] at h ⊢
  obtain ⟨_, _, anyMatches, ha, predicates, hp, expr, he, rfl⟩ := h
  rw [gives_kind plain rfl,
    gives_field plain ha (rereads_setting (by decide)) ⟨.str "and", rfl⟩ (by simp) rfl,
    gives_field plain hp (rereadsIff_list FilterPredicate.rereads) ⟨.list [], rfl⟩ (by simp) rfl,
    gives_optional plain he rereads_rawObject (by simp) rfl]
  simp

theorem rereads_decodeSort : Rereads decodeSort fun spec => toValue false (.sort spec) := by
  refine rereadsIff_closed (by decide) (fun _ => rfl) fun es spec plain h p => ?_
  simp only [Decoded.gives_seq, Decoded.gives_fmap] at h ⊢
  obtain ⟨_, _, key, hk, descending, hd, byNumber, hb, rfl⟩ := h
  rw [gives_kind plain rfl, gives_required plain hk rereads_nonEmpty (by simp) rfl,
    gives_field plain hd (rereads_setting (by decide)) ⟨.str "asc", rfl⟩ (by simp) rfl,
    gives_field plain hb (rereads_setting (by decide)) ⟨.str "string", rfl⟩ (by simp) rfl]
  simp

theorem rereadsIff :
    RereadsIff decode (toValue false) fun step => .const .null ∉ step.selectors := by
  refine rereadsIff_tagged (by decide) ?_
  simp only [kinds, List.forall_mem_cons, List.not_mem_nil, false_implies, implies_true, and_true]
  exact ⟨rereadsKind_map (rereads_decodeFilter.congr (by simp [selectors])) fun _ => ⟨_, rfl⟩,
    rereadsKind_map (rereadsIff_kindField (by decide) rereadsIff_selectors (by simp))
      fun _ => ⟨_, rfl⟩,
    rereadsKind_map ((rereadsIff_kindField (by decide) rereads_nonEmpty (by simp)).congr
      (by simp [selectors])) fun _ => ⟨_, rfl⟩,
    rereadsKind_map (rereads_decodeSort.congr (by simp [selectors])) fun _ => ⟨_, rfl⟩,
    rereadsKind_map ((rereadsIff_kindField (by decide) rereads_positiveInteger (by simp)).congr
      (by simp [selectors])) fun _ => ⟨_, rfl⟩,
    rereadsKind_map ((rereadsIff_kindField (by decide) rereads_nonEmpty (by simp)).congr
      (by simp [selectors])) fun _ => ⟨_, rfl⟩⟩

end Transform

namespace GraphPosition

theorem rereads : Rereads decode (toValue false) := by
  refine rereadsIff_closed (by decide) (fun _ => rfl) fun es position plain h p => ?_
  simp only [Decoded.gives_seq, Decoded.gives_fmap] at h ⊢
  obtain ⟨x, hx, y, hy, rfl⟩ := h
  rw [gives_required plain hx rereads_number (by simp) rfl,
    gives_required plain hy rereads_number (by simp) rfl]
  simp

end GraphPosition

theorem GraphNode.rereads : Rereads decode (toValue false) := by
  refine rereadsIff_closed (by decide) (fun _ => rfl) fun es node plain h p => ?_
  simp only [Decoded.gives_seq, Decoded.gives_fmap] at h ⊢
  obtain ⟨id, hi, kind, hk, position, hp, config, hc, rfl⟩ := h
  rw [gives_required plain hi rereads_nonEmpty (by simp) rfl,
    gives_required plain hk rereads_nonEmpty (by simp) rfl,
    gives_optional plain hp GraphPosition.rereads (fun _ => modelValue_ne_null _ _) rfl,
    gives_optional plain hc rereads_rawObject (by simp) rfl]
  simp

theorem GraphEdge.rereads : Rereads decode (toValue false) := by
  refine rereadsIff_closed (by decide) (fun _ => rfl) fun es edge plain h p => ?_
  simp only [Decoded.gives_seq, Decoded.gives_fmap] at h ⊢
  obtain ⟨id, hi, source, hs, target, ht, sourceHandle, hsh, targetHandle, hth, rfl⟩ := h
  rw [gives_required plain hi rereads_nonEmpty (by simp) rfl,
    gives_required plain hs rereads_nonEmpty (by simp) rfl,
    gives_required plain ht rereads_nonEmpty (by simp) rfl,
    gives_optional plain hsh rereads_text (by simp) rfl,
    gives_optional plain hth rereads_text (by simp) rfl]
  simp

theorem GraphSpec.rereads : Rereads decode (toValue false) := by
  refine rereadsIff_closed (by decide) (fun _ => rfl) fun es graph plain h p => ?_
  simp only [Decoded.gives_seq, Decoded.gives_fmap] at h ⊢
  obtain ⟨nodes, hn, edges, he, entry, hi, exit, hr, rfl⟩ := h
  rw [gives_field plain hn (rereadsIff_list GraphNode.rereads) ⟨.list [], rfl⟩ (by simp) rfl,
    gives_field plain he (rereadsIff_list GraphEdge.rereads) ⟨.list [], rfl⟩ (by simp) rfl,
    gives_required plain hi rereads_nonEmpty (by simp) rfl,
    gives_required plain hr rereads_nonEmpty (by simp) rfl]
  simp

end GridRules
