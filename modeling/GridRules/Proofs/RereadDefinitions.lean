import GridRules.Options.Definition
import GridRules.Proofs.RereadParts
import GridRules.Proofs.Results

namespace GridRules

open Decode

theorem CacheSpec.rereads : Rereads decode (toValue false) := by
  refine rereadsIff_closed (by decide) (fun _ => rfl) fun es spec plain h p => ?_
  simp only [Decoded.gives_seq, Decoded.gives_fmap] at h ⊢
  obtain ⟨ttl, ht, strategy, hs, rfl⟩ := h
  have named : Rereads (oneOf [("ttl", ())]) fun _ => .str "ttl" := rereads_oneOf (by simp)
  rw [gives_optional plain ht rereads_positiveInteger (by simp) rfl,
    gives_optional plain hs named (by simp) (by cases strategy <;> rfl)]
  simp

theorem OptionsEngine.rereads : Rereads decode fun engine => .str engine.name :=
  rereads_oneOf (by decide)

/-- The parts that make up a body are the parts that it has. -/
theorem FunctionBody.ofParts_eq_ok_iff {engine : Option OptionsEngine} {source : Option Source}
    {transforms : List Transform} {output : Option OutputMapping} {graph : Option GraphSpec}
    {body : FunctionBody} :
    ofParts engine source transforms output graph = .ok body ↔
      engine = body.engine ∧ source = body.source ∧ transforms = body.transforms ∧
        output = body.output ∧ graph = body.graphSpec := by
  constructor
  · intro h
    unfold ofParts at h
    split at h
    next => cases h
    next spec =>
      split at h
      next => cases h
      next hbare =>
        cases h
        obtain ⟨⟨rfl, rfl⟩, rfl⟩ : (source = none ∧ output = none) ∧ transforms = [] := by
          simpa using hbare
        exact ⟨rfl, rfl, rfl, rfl, rfl⟩
    next => cases h
    next hengine =>
      split at h
      next =>
        cases h
        refine ⟨?_, rfl, rfl, rfl, rfl⟩
        rcases engine with _ | _ | _
        · rfl
        · rfl
        · exact absurd rfl hengine
      next => cases h
  · rintro ⟨rfl, rfl, rfl, rfl, rfl⟩
    cases body with
    | graph spec => rfl
    | flat pipeline =>
      obtain ⟨_ | _, source, transforms, output⟩ := pipeline <;> rfl

namespace FunctionDefinition

/-- All selectors that a definition has, those of its transforms and those of its output. -/
def selectors (definition : FunctionDefinition) : List Selector :=
  definition.body.transforms.flatMap Transform.selectors ++
    definition.body.output.toList.flatMap OutputMapping.selectors

theorem rereadsIff :
    RereadsIff decode (toValue false) fun definition => .const .null ∉ definition.selectors := by
  refine rereadsIff_refine (by decide) (fun _ => rfl) fun es definition plain h p => ?_
  simp only [decodeParts, Decoded.gives_seq, Decoded.gives_fmap] at h ⊢
  obtain ⟨id, hid, name, hname, description, hdescription, version, hversion, cache, hcache,
    enabled, henabled, engine, hengine, source, hsource, transforms, htransforms, output, houtput,
    graph, hgraph, hmade⟩ := h
  obtain ⟨body, hbody, rfl⟩ := map_eq_ok_iff.mp hmade
  obtain ⟨rfl, rfl, rfl, rfl, rfl⟩ := FunctionBody.ofParts_eq_ok_iff.mp hbody
  rw [gives_required plain hid rereads_nonEmpty (by simp) rfl,
    gives_required plain hname rereads_nonEmpty (by simp) rfl,
    gives_optional plain hdescription rereads_text (by simp) rfl,
    gives_field plain hversion rereads_positiveInteger ⟨.int 1, rfl⟩ (by simp) rfl,
    gives_optional plain hcache CacheSpec.rereads (fun _ => modelValue_ne_null _ _) rfl,
    gives_field plain henabled rereads_boolean ⟨.bool true, rfl⟩ (by simp) rfl,
    gives_optional plain hengine OptionsEngine.rereads (by simp) rfl,
    gives_optional plain hsource Source.rereads (by simp) rfl,
    gives_field plain htransforms (rereadsIff_list Transform.rereadsIff) ⟨.list [], rfl⟩ (by simp) rfl,
    gives_optional plain houtput OutputMapping.rereadsIff (fun _ => modelValue_ne_null _ _) rfl,
    gives_optional plain hgraph GraphSpec.rereads (fun _ => modelValue_ne_null _ _) rfl,
    FunctionBody.ofParts_eq_ok_iff.mpr ⟨rfl, rfl, rfl, rfl, rfl⟩]
  simp [selectors, Except.map, and_assoc]

theorem ofValue_eq_ok_iff {v : Value} {definition : FunctionDefinition} :
    ofValue v = .ok definition ↔ decode v = .ok definition := by
  cases v with
  | object es => cases h : decode (.object es) <;> simp [ofValue, decodeDocument, h]
  | _ => simp [ofValue, decodeDocument, decode, closed, Decoded.refine, Decoded.complain]

/-- What a definition is written as is read again as the same definition, unless a selector is the
constant null: its field is left out, and nothing can be read then. -/
theorem ofValue_toValue_iff {v : Value} {definition again : FunctionDefinition}
    (h : ofValue v = .ok definition) :
    ofValue (definition.toValue false) = .ok again ↔
      .const .null ∉ definition.selectors ∧ definition = again := by
  rw [ofValue_eq_ok_iff] at h ⊢
  rw [← Decoded.gives_eq_iff]
  exact (rereadsIff h _).trans (by simp)

/-- Rooms by their code, with a note from an argument. -/
def roomsDocument : Value :=
  .object [
    ("id", .str " rooms "),
    ("name", .str "Rooms"),
    ("description", .null),
    ("source", .object [
      ("kind", .str "http_get"),
      ("connector_id", .str "registry"),
      ("query", .object [("ward", .str "A")])]),
    ("transforms", .list [
      .object [
        ("kind", .str "map_fields"),
        ("mappings", .object [
          ("note", .object [("from_arg", .str "note")]),
          ("floor", .object [("const", .int 2)])])],
      .object [("kind", .str "limit"), ("count", .str "10")]]),
    ("output", .object [("label", .str "name"), ("value", .str "code")])]

/-- What is read from it: names are trimmed, and defaults are filled in. -/
def rooms : FunctionDefinition where
  id := "rooms"
  name := "Rooms"
  description := none
  version := ⟨1, Nat.one_pos⟩
  cache := none
  enabled := true
  body := .flat {
    namesEngine := false
    source := .httpGet ⟨"registry", "", [("ward", "A")], [], none⟩
    transforms := [
      .mapFields [("note", .arg "note"), ("floor", .const (.int 2))],
      .limit ⟨10, Nat.succ_pos 9⟩]
    output := ⟨.path "name", .path "code", none, none⟩ }

theorem ofValue_toValue_rooms :
    ofValue roomsDocument = .ok rooms ∧ ofValue (rooms.toValue false) = .ok rooms := by
  have h : ofValue roomsDocument = .ok rooms := rfl
  exact ⟨h, (ofValue_toValue_iff h).mpr ⟨by decide, rfl⟩⟩

/-- A definition with the constant null as its label. -/
def blankLabelDocument : Value :=
  .object [
    ("id", .str "f"),
    ("name", .str "F"),
    ("source", .object [("kind", .str "grid_rows"), ("gridId", .str "g")]),
    ("output", .object [("label", .object [("const", .null)]), ("value", .str "code")])]

/-- It is accepted, but what it is written as is not. -/
theorem blankLabel_lost :
    ∃ definition error, ofValue blankLabelDocument = .ok definition ∧
      ofValue (definition.toValue false) = .error error :=
  ⟨_, _, rfl, rfl⟩

end FunctionDefinition

end GridRules
