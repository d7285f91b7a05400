import Signpost.Proofs.Header
set_option autoImplicit false

/-!
# Definitions of blocks

Each field of the definition of a block, from the header that was read.  Without a header there is
no field but the source.

The definition of a block says what the block's first line says about kind and name, or nothing
(`ofBlock_text`), and it has no parameter with a blocked name (`not_mem_blocked_ofBlock`).
-/

namespace Signpost

open Text

/-! ## Blocked parameters -/

namespace Parameter

theorem of_mem_unlessBlocked {blocked : List Text} {p q : Parameter}
    (h : p ∈ unlessBlocked blocked q) : p = q ∧ p.name ∉ blocked := by
  unfold unlessBlocked at h
  split at h
  · simp at h
  · rename_i hblocked
    obtain rfl := List.mem_singleton.mp h
    exact ⟨rfl, by simpa using hblocked⟩

theorem not_mem_of_mem_parseSegments {blocked : List Text} {p : Parameter} :
    ∀ {l : List Segment} {current : Option Parameter},
      p ∈ parseSegments blocked current l → p.name ∉ blocked := by
  intro l
  induction l with
  | nil =>
    intro current h
    cases current with
    | none => simp [parseSegments] at h
    | some q => exact (of_mem_unlessBlocked h).2
  | cons s rest ih =>
    intro current h
    cases current with
    | none =>
      rw [parseSegments] at h
      split at h <;> exact ih h
    | some q =>
      rw [parseSegments] at h
      split at h
      · exact ih h
      · split at h
        · exact ih h
        · exact (List.mem_append.mp h).elim (fun h => (of_mem_unlessBlocked h).2) ih

/-- No parameter is read that has a blocked name. -/
theorem not_mem_of_mem_parse {blocked : List Text} {p : Parameter} {t : Text}
    (h : p ∈ parse t blocked) : p.name ∉ blocked :=
  not_mem_of_mem_parseSegments h

end Parameter

namespace Definition

/-! ## The fields -/

variable (d : Dialect) (blocked : List Text) (block : Text)

theorem kind_ofBlock :
    (ofBlock d blocked block).kind = (Header.parse? d (trim block)).map Header.kind := by
  dsimp only [ofBlock]
  cases Header.parse? d (trim block) <;> rfl

theorem name_ofBlock :
    (ofBlock d blocked block).name = (Header.parse? d (trim block)).map Header.name := by
  dsimp only [ofBlock]
  cases Header.parse? d (trim block) <;> rfl

theorem keyword_ofBlock :
    (ofBlock d blocked block).keyword =
      (Header.parse? d (trim block)).map fun h => d.keyword h.kind := by
  dsimp only [ofBlock]
  cases Header.parse? d (trim block) <;> rfl

theorem parameters_ofBlock :
    (ofBlock d blocked block).parameters =
      (Header.parse? d (trim block)).map fun h => Parameter.parse h.parameterText blocked := by
  dsimp only [ofBlock]
  cases Header.parse? d (trim block) <;> rfl

theorem isDegenerate_ofBlock :
    (ofBlock d blocked block).isDegenerate = (Header.parse? d (trim block)).isNone := by
  unfold isDegenerate
  rw [name_ofBlock]
  cases Header.parse? d (trim block) <;> rfl

/-- A class begins without methods, and nothing else has any. -/
theorem children_ofBlock :
    (ofBlock d blocked block).children =
      if (ofBlock d blocked block).kind = some .cls then some [] else none := by
  rw [kind_ofBlock]
  dsimp only [ofBlock]
  cases Header.parse? d (trim block) with
  | none => rfl
  | some h => cases hk : h.kind <;> simp [hk]

theorem source_ofBlock : (ofBlock d blocked block).source = trim block := by
  dsimp only [ofBlock]
  cases Header.parse? d (trim block) <;> rfl

theorem description_ofBlock :
    (ofBlock d blocked block).description =
      (Header.parse? d (trim block)).map fun _ => (description? (trim block)).getD [] := by
  dsimp only [ofBlock]
  cases Header.parse? d (trim block) <;> rfl

theorem not_mem_blocked_ofBlock {p : Parameter} (h : p ∈ (ofBlock d blocked block).parameterList) :
    p.name ∉ blocked := by
  unfold parameterList at h
  rw [parameters_ofBlock] at h
  cases hparse : Header.parse? d (trim block) with
  | none => simp [hparse] at h
  | some header =>
    rw [hparse] at h
    exact Parameter.not_mem_of_mem_parse h

/-! ## The header line of a block -/

/-- All that is known of a definition whose header could be read. -/
structure Describes (d : Dialect) (kind : Kind) (name : Text) (definition : Definition) : Prop where
  name_eq : definition.name = some name
  kind_eq : definition.kind = some kind
  keyword_eq : definition.keyword = some (d.keyword kind)
  description : definition.description.isSome = true
  parameters : definition.parameters.isSome = true
  /-- Classes have methods, perhaps none. -/
  children : definition.children.isSome = true ↔ kind = .cls

theorem Describes.isDegenerate_eq {kind : Kind} {name : Text} {definition : Definition}
    (h : Describes d kind name definition) : definition.isDegenerate = false := by
  simp [isDegenerate, h.name_eq]

variable {d} {line name : Text} {kind : Kind}

/-- A block's definition is what its header line announces, or nothing is known but the source. -/
theorem ofBlock_text (valid : d.Valid) (hheader : Header.start? d line = some (kind, name))
    (following : List Text) :
    let definition := ofBlock d blocked (Block.text line following)
    definition = degenerate definition.source ∨ Describes d kind name definition := by
  intro definition
  cases hparse : Header.parse? d (trim (Block.text line following)) with
  | none =>
    left
    simp only [definition, ofBlock, hparse]
    rfl
  | some header =>
    obtain ⟨hkind, hname⟩ := Header.parse?_block valid hheader following hparse
    right
    exact
      { name_eq := by rw [name_ofBlock, hparse, Option.map_some, hname]
        kind_eq := by rw [kind_ofBlock, hparse, Option.map_some, hkind]
        keyword_eq := by rw [keyword_ofBlock, hparse, Option.map_some, hkind]
        description := by rw [description_ofBlock, hparse]; rfl
        parameters := by rw [parameters_ofBlock, hparse]; rfl
        children := by
          rw [children_ofBlock, kind_ofBlock, hparse, Option.map_some, hkind]
          cases kind <;> simp }

/-- A class is a header of the class keyword whose parameters could be read. -/
theorem kind_ofBlock_text_iff (valid : d.Valid)
    (hheader : Header.start? d line = some (kind, name)) (following : List Text) :
    (ofBlock d blocked (Block.text line following)).kind = some .cls ↔
      kind = .cls ∧ ¬ (ofBlock d blocked (Block.text line following)).isDegenerate = true := by
  rcases ofBlock_text blocked valid hheader following with hdegenerate | hdescribes
  · rw [hdegenerate]
    simp [degenerate, isDegenerate]
  · simp [hdescribes.kind_eq, hdescribes.isDegenerate_eq]

end Definition

end Signpost
