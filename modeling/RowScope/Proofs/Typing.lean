import RowScope.Proofs.Template

/-!
# The types of expressions

`Expr.HasType` are the rules by which an expression has a type, or none if it is the
null literal.  They know no order of checking and keep no record of what was met.

* `Expr.hasType_of_infer` and `Expr.HasType.exists_infer`: checking finds exactly the
  types that the rules give, whatever it has met before.
* `Expr.Part`: an expression inside another one.  The parts of a well-typed expression
  are well typed (`Expr.HasType.exists_of_part`).
-/

namespace RowScope.Expr

/-- The typing rules over the fields of a schema and declared parameters. -/
inductive HasType (schema : Schema) (params : List Parameter) :
    Expr → Option ScalarType → Prop
  | field {name : String} {f : Field} (declared : schema.field? name = some f) :
    HasType schema params (.field name) (some f.type)
  | param {name : String} {p : Parameter}
      (declared : Template.declaration? params name = some p) :
    HasType schema params (.param name) (some p.type)
  | literal (v : Value) : HasType schema params (.literal v) v.scalarType
  | compare {op : Comparison} {l r : Expr} {left right : Option ScalarType}
      (typedLeft : HasType schema params l left) (typedRight : HasType schema params r right)
      (alike : ∀ s ∈ left, ∀ t ∈ right, s.comparableWith t = true) :
    HasType schema params (.compare op l r) (some .bool)
  | conj {es : List Expr} (each : ∀ e ∈ es, HasType schema params e (some .bool)) :
    HasType schema params (.conj es) (some .bool)
  | disj {es : List Expr} (each : ∀ e ∈ es, HasType schema params e (some .bool)) :
    HasType schema params (.disj es) (some .bool)
  | neg {e : Expr} (typed : HasType schema params e (some .bool)) :
    HasType schema params (.neg e) (some .bool)

variable {schema : Schema} {params : List Parameter}

/-! ## What checking finds -/

mutual

theorem hasType_of_infer : ∀ (e : Expr) {u u' : Usage} {type : Option ScalarType},
    Template.infer schema params u e = .ok (type, u') → e.HasType schema params type
  | .field name, u, u', type, found => by
    rw [Template.infer] at found
    split at found
    · next f declared =>
      cases found
      exact .field declared
    · cases found
  | .param name, u, u', type, found => by
    rw [Template.infer] at found
    split at found
    · next p declared =>
      cases found
      exact .param declared
    · cases found
  | .literal v, u, u', type, found => by
    cases found
    exact .literal v
  | .compare op l r, u, u', type, found => by
    obtain ⟨⟨left, u₁⟩, foundLeft, found⟩ := bind_eq_ok_iff.1 found
    obtain ⟨⟨right, u₂⟩, foundRight, found⟩ := bind_eq_ok_iff.1 found
    have typedLeft := hasType_of_infer l foundLeft
    have typedRight := hasType_of_infer r foundRight
    dsimp only at found
    split at found
    · next s t =>
      split at found
      · next alike =>
        cases found
        refine .compare typedLeft typedRight ?_
        rintro _ ⟨⟩ _ ⟨⟩
        exact alike
      · cases found
    · next untyped =>
      cases found
      exact .compare typedLeft typedRight fun s isLeft t isRight =>
        (untyped s t isLeft isRight).elim
  | .conj es, u, u', type, found => by
    obtain ⟨u₁, each, found⟩ := bind_eq_ok_iff.1 found
    cases found
    exact .conj (hasType_of_requireBools es each)
  | .disj es, u, u', type, found => by
    obtain ⟨u₁, each, found⟩ := bind_eq_ok_iff.1 found
    cases found
    exact .disj (hasType_of_requireBools es each)
  | .neg e, u, u', type, found => by
    obtain ⟨⟨operand, u₁⟩, foundOperand, found⟩ := bind_eq_ok_iff.1 found
    have typed := hasType_of_infer e foundOperand
    dsimp only at found
    split at found
    · next isBool =>
      cases found
      exact .neg (isBool ▸ typed)
    · cases found

theorem hasType_of_requireBools : ∀ (es : List Expr) {word : String} {u u' : Usage},
    Template.requireBools schema params word u es = .ok u' →
      ∀ e ∈ es, e.HasType schema params (some .bool)
  | [], _, _, _, _, _, member => by cases member
  | e :: es, word, u, u', found, e', member => by
    obtain ⟨⟨type, u₁⟩, foundHead, found⟩ := bind_eq_ok_iff.1 found
    have typed := hasType_of_infer e foundHead
    dsimp only at found
    split at found
    · next isBool =>
      rcases List.mem_cons.1 member with rfl | later
      · exact isBool ▸ typed
      · exact hasType_of_requireBools es found e' later
    · cases found

end

/-- Operands that are found to be truth values one by one pass the check together. -/
theorem exists_requireBools (word : String) {es : List Expr}
    (each : ∀ e ∈ es, ∀ u, ∃ u', Template.infer schema params u e = .ok (some .bool, u'))
    (u : Usage) : ∃ u', Template.requireBools schema params word u es = .ok u' := by
  induction es generalizing u with
  | nil => exact ⟨u, rfl⟩
  | cons e es ih =>
    obtain ⟨head, tail⟩ := List.forall_mem_cons.1 each
    obtain ⟨u₁, found⟩ := head u
    obtain ⟨u₂, rest⟩ := ih tail u₁
    refine ⟨u₂, ?_⟩
    rw [Template.requireBools, found]
    exact rest

/-- Checking finds a type that the rules give, whatever it has met before. -/
theorem HasType.exists_infer {e : Expr} {type : Option ScalarType}
    (typed : e.HasType schema params type) (u : Usage) :
    ∃ u', Template.infer schema params u e = .ok (type, u') := by
  induction typed generalizing u with
  | field declared => exact ⟨_, by rw [Template.infer, declared]⟩
  | param declared => exact ⟨_, by rw [Template.infer, declared]⟩
  | literal v => exact ⟨u, rfl⟩
  | @compare op l r left right _ _ alike ihLeft ihRight =>
    obtain ⟨u₁, foundLeft⟩ := ihLeft u
    obtain ⟨u₂, foundRight⟩ := ihRight u₁
    refine ⟨u₂, ?_⟩
    rw [Template.infer, foundLeft]
    change (Template.infer schema params u₁ r >>= _) = _
    rw [foundRight]
    cases left with
    | none => rfl
    | some s =>
      cases right with
      | none => rfl
      | some t => exact if_pos (alike s rfl t rfl)
  | conj _ ih =>
    obtain ⟨u₁, found⟩ := exists_requireBools "AND" ih u
    exact ⟨u₁, by rw [Template.infer, found]; rfl⟩
  | disj _ ih =>
    obtain ⟨u₁, found⟩ := exists_requireBools "OR" ih u
    exact ⟨u₁, by rw [Template.infer, found]; rfl⟩
  | neg _ ih =>
    obtain ⟨u₁, found⟩ := ih u
    exact ⟨u₁, by rw [Template.infer, found]; rfl⟩

/-! ## Parts -/

/-- `Part a e`: the expression `a` stands somewhere inside of `e`, or is it. -/
inductive Part (a : Expr) : Expr → Prop
  | whole : Part a a
  | left {op : Comparison} {l r : Expr} (part : Part a l) : Part a (.compare op l r)
  | right {op : Comparison} {l r : Expr} (part : Part a r) : Part a (.compare op l r)
  | conj {e : Expr} {es : List Expr} (member : e ∈ es) (part : Part a e) : Part a (.conj es)
  | disj {e : Expr} {es : List Expr} (member : e ∈ es) (part : Part a e) : Part a (.disj es)
  | neg {e : Expr} (part : Part a e) : Part a (.neg e)

/-- The parts of a well-typed expression are well typed. -/
theorem HasType.exists_of_part {a e : Expr} {type : Option ScalarType}
    (typed : e.HasType schema params type) (part : a.Part e) :
    ∃ type', a.HasType schema params type' := by
  induction part generalizing type with
  | whole => exact ⟨type, typed⟩
  | left _ ih =>
    cases typed with
    | compare typedLeft _ _ => exact ih typedLeft
  | right _ ih =>
    cases typed with
    | compare _ typedRight _ => exact ih typedRight
  | conj member _ ih =>
    cases typed with
    | conj each => exact ih (each _ member)
  | disj member _ ih =>
    cases typed with
    | disj each => exact ih (each _ member)
  | neg _ ih =>
    cases typed with
    | neg typed => exact ih typed

end RowScope.Expr
