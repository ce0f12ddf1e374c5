import SloScript.Proofs.Rendering

/-!
# Replacing the spans of a program

Where a program was written shows in the spans of its nodes and nowhere else. A *relocation*
replaces spans throughout a program. Two of them matter: the one that keeps every span, and the one
that erases all of them, which is how two programs are compared up to spans. What makes them fit is
that they go together with everything that is done to spans: joining two of them, and giving a place
to an error that has none.
-/

namespace SloScript

/-- A replacement for every span. -/
structure Relocation where
  place : Span → Span
  again : ∀ a, place (place a) = place a
  merge : ∀ a b, place (a.merge b) = (place a).merge (place b)
  /-- Spans that are replaced alike still are after an error without a place is given one. -/
  orElse : ∀ a b c d, place a = place c → place b = place d →
    place (if a.isNowhere then b else a) = place (if c.isNowhere then d else c)

namespace Relocation

/-- Every span stays. -/
def keep : Relocation where
  place a := a
  again _ := rfl
  merge _ _ := rfl
  orElse _ _ _ _ same same' := by rw [same, same']

/-- No span stays. -/
def erase : Relocation where
  place _ := .nowhere
  again _ := rfl
  merge _ _ := rfl
  orElse _ _ _ _ _ _ := rfl

end Relocation

variable (r : Relocation)

/-! ## Tokens, errors and programs -/

/-- A token with its span replaced. -/
def Token.relocate (t : Token) : Token := { t with span := r.place t.span }

/-- A name with its span replaced. -/
def Ident.relocate (id : Ident) : Ident := ⟨id.name, r.place id.span⟩

/-- An error with its span replaced. -/
def Located.relocate {α : Type} (e : Located α) : Located α := ⟨e.cause, r.place e.span⟩

mutual

/-- An expression with its spans replaced. -/
def Expr.relocate : Expr → Expr
  | .number x span => .number x (r.place span)
  | .text s span => .text s (r.place span)
  | .name id => .name (id.relocate r)
  | .assign target value span => .assign target.relocate value.relocate (r.place span)
  | .binary op left right span => .binary op left.relocate right.relocate (r.place span)
  | .member object key span => .member object.relocate (key.relocate r) (r.place span)
  | .index object key span => .index object.relocate key.relocate (r.place span)
  | .call callee args span => .call callee.relocate (relocateArgs args) (r.place span)
  | .object properties span => .object (relocateProperties properties) (r.place span)

/-- Arguments with their spans replaced. -/
def relocateArgs : List Expr → List Expr
  | [] => []
  | arg :: args => arg.relocate :: relocateArgs args

/-- An entry with its spans replaced. -/
def Property.relocate : Property → Property
  | .shorthand key => .shorthand (key.relocate r)
  | .keyed key value span => .keyed (key.relocate r) value.relocate (r.place span)

/-- The entries of an object with their spans replaced. -/
def relocateProperties : List Property → List Property
  | [] => []
  | property :: properties => property.relocate :: relocateProperties properties

end

mutual

/-- A statement with its spans replaced. -/
def Stmt.relocate : Stmt → Stmt
  | .letVar name init span =>
    .letVar (name.relocate r) (init.map (Expr.relocate r)) (r.place span)
  | .letConst name init span => .letConst (name.relocate r) (init.relocate r) (r.place span)
  | .function name params body span =>
    .function (name.relocate r) (params.map (Ident.relocate r)) (relocateBody body) (r.place span)
  | .branch test consequent alternate span =>
    .branch (test.relocate r) (relocateBody consequent) (relocateBody alternate) (r.place span)
  | .expr e => .expr (e.relocate r)

/-- Statements with their spans replaced. -/
def relocateBody : List Stmt → List Stmt
  | [] => []
  | stmt :: body => stmt.relocate :: relocateBody body

end

variable {r}

theorem Expr.span_relocate (e : Expr) : (e.relocate r).span = r.place e.span := by
  cases e <;> simp only [Expr.relocate, Expr.span, Ident.relocate]

theorem Ident.name_relocate (ids : List Ident) :
    (ids.map (Ident.relocate r)).map Ident.name = ids.map Ident.name := by
  simp [Ident.relocate, Function.comp_def]

theorem relocateBody_eq_map (body : List Stmt) :
    relocateBody r body = body.map (Stmt.relocate r) := by
  induction body with
  | nil => rw [relocateBody, List.map_nil]
  | cons stmt body ih => rw [relocateBody, ih, List.map_cons]

theorem length_relocateBody (body : List Stmt) :
    (relocateBody r body).length = body.length := by
  rw [relocateBody_eq_map, List.length_map]

/-- An error that has no place is given one before or after spans are replaced. -/
theorem Located.relocate_orAt {α : Type} {e e' : Located α} {span span' : Span}
    (same : e.relocate r = e'.relocate r) (places : r.place span = r.place span') :
    (e.orAt span).relocate r = (e'.orAt span').relocate r := by
  obtain ⟨cause, old⟩ := e
  obtain ⟨cause', old'⟩ := e'
  obtain ⟨rfl, olds⟩ : cause = cause' ∧ r.place old = r.place old' := by
    simpa [Located.relocate] using same
  have moved := r.orElse old span old' span' olds places
  have pick (a b : Span) : (Located.orAt ⟨cause, a⟩ b).relocate r =
      ⟨cause, r.place (if a.isNowhere then b else a)⟩ := by
    unfold Located.orAt
    split <;> simp_all [Located.relocate]
  rw [pick, pick, moved]

/-! ## Replacing spans again -/

theorem Ident.relocate_again (id : Ident) : (id.relocate r).relocate r = id.relocate r :=
  congrArg (Ident.mk id.name) (r.again id.span)

mutual

theorem Expr.relocate_again : ∀ e : Expr, (e.relocate r).relocate r = e.relocate r
  | .number _ _ | .text _ _ => by simp only [Expr.relocate, r.again]
  | .name id => by simp only [Expr.relocate, id.relocate_again]
  | .assign target value _ => by
    simp only [Expr.relocate, target.relocate_again, value.relocate_again, r.again]
  | .binary _ left right _ => by
    simp only [Expr.relocate, left.relocate_again, right.relocate_again, r.again]
  | .member object key _ => by
    simp only [Expr.relocate, object.relocate_again, key.relocate_again, r.again]
  | .index object key _ => by
    simp only [Expr.relocate, object.relocate_again, key.relocate_again, r.again]
  | .call callee args _ => by
    simp only [Expr.relocate, callee.relocate_again, relocateArgs_again args, r.again]
  | .object properties _ => by
    simp only [Expr.relocate, relocateProperties_again properties, r.again]

theorem relocateArgs_again :
    ∀ args : List Expr, relocateArgs r (relocateArgs r args) = relocateArgs r args
  | [] => by simp only [relocateArgs]
  | arg :: args => by simp only [relocateArgs, arg.relocate_again, relocateArgs_again args]

theorem Property.relocate_again : ∀ p : Property, (p.relocate r).relocate r = p.relocate r
  | .shorthand key => by simp only [Property.relocate, key.relocate_again]
  | .keyed key value _ => by
    simp only [Property.relocate, key.relocate_again, value.relocate_again, r.again]

theorem relocateProperties_again : ∀ ps : List Property,
    relocateProperties r (relocateProperties r ps) = relocateProperties r ps
  | [] => by simp only [relocateProperties]
  | p :: ps => by simp only [relocateProperties, p.relocate_again, relocateProperties_again ps]

end

mutual

theorem Stmt.relocate_again : ∀ s : Stmt, (s.relocate r).relocate r = s.relocate r
  | .letVar name none _ => by
    simp only [Stmt.relocate, Option.map_none, name.relocate_again, r.again]
  | .letVar name (some init) _ => by
    simp only [Stmt.relocate, Option.map_some, name.relocate_again, init.relocate_again, r.again]
  | .letConst name init _ => by
    simp only [Stmt.relocate, name.relocate_again, init.relocate_again, r.again]
  | .function name params body _ => by
    have names : (params.map (Ident.relocate r)).map (Ident.relocate r) =
        params.map (Ident.relocate r) := by
      rw [List.map_map]
      exact List.map_congr_left fun id _ => id.relocate_again
    simp only [Stmt.relocate, name.relocate_again, names, relocateBody_again body, r.again]
  | .branch test consequent alternate _ => by
    simp only [Stmt.relocate, test.relocate_again, relocateBody_again consequent,
      relocateBody_again alternate, r.again]
  | .expr e => by simp only [Stmt.relocate, e.relocate_again]

theorem relocateBody_again :
    ∀ body : List Stmt, relocateBody r (relocateBody r body) = relocateBody r body
  | [] => by simp only [relocateBody]
  | stmt :: body => by simp only [relocateBody, stmt.relocate_again, relocateBody_again body]

end

/-! ## Keeping all spans -/

mutual

theorem Expr.relocate_keep : ∀ e : Expr, e.relocate .keep = e
  | .number _ _ | .text _ _ | .name _ => by rw [Expr.relocate]; rfl
  | .assign target value _ => by
    rw [Expr.relocate, target.relocate_keep, value.relocate_keep]; rfl
  | .binary _ left right _ => by
    rw [Expr.relocate, left.relocate_keep, right.relocate_keep]; rfl
  | .member object _ _ => by rw [Expr.relocate, object.relocate_keep]; rfl
  | .index object key _ => by
    rw [Expr.relocate, object.relocate_keep, key.relocate_keep]; rfl
  | .call callee args _ => by
    rw [Expr.relocate, callee.relocate_keep, relocateArgs_keep args]; rfl
  | .object properties _ => by rw [Expr.relocate, relocateProperties_keep properties]; rfl

theorem relocateArgs_keep : ∀ args : List Expr, relocateArgs .keep args = args
  | [] => by rw [relocateArgs]
  | arg :: args => by rw [relocateArgs, arg.relocate_keep, relocateArgs_keep args]

theorem Property.relocate_keep : ∀ p : Property, p.relocate .keep = p
  | .shorthand _ => by rw [Property.relocate]; rfl
  | .keyed _ value _ => by rw [Property.relocate, value.relocate_keep]; rfl

theorem relocateProperties_keep : ∀ ps : List Property, relocateProperties .keep ps = ps
  | [] => by rw [relocateProperties]
  | p :: ps => by rw [relocateProperties, p.relocate_keep, relocateProperties_keep ps]

end

mutual

theorem Stmt.relocate_keep : ∀ s : Stmt, s.relocate .keep = s
  | .letVar _ none _ => by rw [Stmt.relocate]; rfl
  | .letVar _ (some init) _ => by
    rw [Stmt.relocate, Option.map_some, init.relocate_keep]; rfl
  | .letConst _ init _ => by rw [Stmt.relocate, init.relocate_keep]; rfl
  | .function _ params body _ => by
    have names : params.map (Ident.relocate .keep) = params := List.map_id _
    rw [Stmt.relocate, names, relocateBody_keep body]; rfl
  | .branch test consequent alternate _ => by
    rw [Stmt.relocate, test.relocate_keep, relocateBody_keep consequent,
      relocateBody_keep alternate]; rfl
  | .expr e => by rw [Stmt.relocate, e.relocate_keep]

theorem relocateBody_keep : ∀ body : List Stmt, relocateBody .keep body = body
  | [] => by rw [relocateBody]
  | stmt :: body => by rw [relocateBody, stmt.relocate_keep, relocateBody_keep body]

end

/-! ## Erasing all spans -/

mutual

theorem Expr.relocate_erase : ∀ e : Expr, e.relocate .erase = e.bare
  | .number _ _ | .text _ _ | .name _ => by rw [Expr.relocate, Expr.bare]; rfl
  | .assign target value _ => by
    rw [Expr.relocate, Expr.bare, target.relocate_erase, value.relocate_erase]; rfl
  | .binary _ left right _ => by
    rw [Expr.relocate, Expr.bare, left.relocate_erase, right.relocate_erase]; rfl
  | .member object _ _ => by rw [Expr.relocate, Expr.bare, object.relocate_erase]; rfl
  | .index object key _ => by
    rw [Expr.relocate, Expr.bare, object.relocate_erase, key.relocate_erase]; rfl
  | .call callee args _ => by
    rw [Expr.relocate, Expr.bare, callee.relocate_erase, relocateArgs_erase args]; rfl
  | .object properties _ => by
    rw [Expr.relocate, Expr.bare, relocateProperties_erase properties]; rfl

theorem relocateArgs_erase : ∀ args : List Expr, relocateArgs .erase args = bareArgs args
  | [] => by rw [relocateArgs, bareArgs]
  | arg :: args => by rw [relocateArgs, bareArgs, arg.relocate_erase, relocateArgs_erase args]

theorem Property.relocate_erase : ∀ p : Property, p.relocate .erase = p.bare
  | .shorthand _ => by rw [Property.relocate, Property.bare]; rfl
  | .keyed _ value _ => by rw [Property.relocate, Property.bare, value.relocate_erase]; rfl

theorem relocateProperties_erase :
    ∀ ps : List Property, relocateProperties .erase ps = bareProperties ps
  | [] => by rw [relocateProperties, bareProperties]
  | p :: ps => by
    rw [relocateProperties, bareProperties, p.relocate_erase, relocateProperties_erase ps]

end

mutual

theorem Stmt.relocate_erase : ∀ s : Stmt, s.relocate .erase = s.bare
  | .letVar _ none _ => by rw [Stmt.relocate, Stmt.bare]; rfl
  | .letVar _ (some init) _ => by
    rw [Stmt.relocate, Stmt.bare, Option.map_some, init.relocate_erase]; rfl
  | .letConst _ init _ => by rw [Stmt.relocate, Stmt.bare, init.relocate_erase]; rfl
  | .function _ params body _ => by
    rw [Stmt.relocate, Stmt.bare, relocateBody_erase body]; rfl
  | .branch test consequent alternate _ => by
    rw [Stmt.relocate, Stmt.bare, test.relocate_erase, relocateBody_erase consequent,
      relocateBody_erase alternate]; rfl
  | .expr e => by rw [Stmt.relocate, Stmt.bare, e.relocate_erase]

theorem relocateBody_erase : ∀ body : List Stmt, relocateBody .erase body = bareBody body
  | [] => by rw [relocateBody, bareBody]
  | stmt :: body => by rw [relocateBody, bareBody, stmt.relocate_erase, relocateBody_erase body]

end

end SloScript
