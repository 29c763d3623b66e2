import ProofScript.Proofs.Naming.Alike

/-!
# Another spelling for a parameter

A parameter may be given another spelling: in its declaration, and in every variable and head that
refers to it. What a lambda binds under the old spelling is left alone, and so is what stands before
the declaration.

## Main results

`Term.respell_injective`: terms are kept apart, as long as they do not have the new spelling.

`Signature.alike_respell`: the signature stays the same up to the choice of names.
-/
namespace ProofScript

/-- What `name` becomes when `old` is spelled `new`. -/
def respelling (old new name : String) : String :=
  if name = old then new else name

/-- What `name` becomes if the old spelling is in force, and not that of something else. -/
def respellingIf (active : Bool) (old new name : String) : String :=
  if active then respelling old new name else name

section Respelling

variable {old new name other : String}

theorem respelling_self : respelling old new old = new := if_pos rfl

theorem respelling_of_ne (different : name ≠ old) : respelling old new name = name :=
  if_neg different

theorem respellingIf_of_ne (active : Bool) (different : name ≠ old) :
    respellingIf active old new name = name := by
  rw [respellingIf, respelling_of_ne different, ite_self]

theorem respelling_injective (fresh : name ≠ new) (fresh' : other ≠ new)
    (same : respelling old new name = respelling old new other) : name = other := by
  unfold respelling at same
  grind

end Respelling

namespace Term

mutual

/-- The term with `new` for every `old` that no lambda in it binds. -/
def respell (old new : String) : Term → Term
  | .const name => .const name
  | .var name => .var (respelling old new name)
  | .app head args => .app (respelling old new head) (respellArgs old new args)
  | .lambda param body => .lambda param (if param = old then body else respell old new body)

def respellArgs (old new : String) : List Term → List Term
  | [] => []
  | arg :: args => respell old new arg :: respellArgs old new args

end

mutual

/-- The names of the variables, heads and binders of a term. -/
def spellings : Term → List String
  | .const _ => []
  | .var name => [name]
  | .app head args => head :: spellingsArgs args
  | .lambda param body => param :: spellings body

def spellingsArgs : List Term → List String
  | [] => []
  | arg :: args => spellings arg ++ spellingsArgs args

end

variable {old new : String}

theorem not_mem_spellings_of_mem {name : String} {args : List Term}
    (fresh : name ∉ spellingsArgs args) {arg : Term} (member : arg ∈ args) :
    name ∉ arg.spellings := by
  induction args with
  | nil => cases member
  | cons first rest ih =>
    rw [spellingsArgs, List.mem_append, not_or] at fresh
    rcases List.mem_cons.mp member with rfl | later
    · exact fresh.1
    · exact ih fresh.2 later

mutual

/-- Terms that do not have the new spelling yet can be told apart after the change. -/
theorem respell_injective : (term : Term) → {other : Term} → new ∉ term.spellings →
    new ∉ other.spellings → term.respell old new = other.respell old new → term = other
  | .const name, other, _, _, same => by
    cases other <;> simp only [respell, reduceCtorEq] at same
    exact same
  | .var name, other, fresh, fresh', same => by
    cases other <;> simp only [respell, reduceCtorEq] at same
    rw [spellings, List.mem_singleton] at fresh fresh'
    exact congrArg Term.var
      (respelling_injective (Ne.symm fresh) (Ne.symm fresh') (Term.var.inj same))
  | .app head args, other, fresh, fresh', same => by
    cases other <;> simp only [respell, reduceCtorEq] at same
    rw [spellings, List.mem_cons, not_or] at fresh fresh'
    obtain ⟨heads, arguments⟩ := Term.app.inj same
    rw [respelling_injective (Ne.symm fresh.1) (Ne.symm fresh'.1) heads,
      respellArgs_injective args fresh.2 fresh'.2 arguments]
  | .lambda param body, other, fresh, fresh', same => by
    cases other <;> simp only [respell, reduceCtorEq] at same
    rw [spellings, List.mem_cons, not_or] at fresh fresh'
    obtain ⟨rfl, bodies⟩ := Term.lambda.inj same
    -- a binder with the old spelling stops the change on both sides
    split at bodies
    · rw [bodies]
    · rw [respell_injective body fresh.2 fresh'.2 bodies]

theorem respellArgs_injective : (args : List Term) → {others : List Term} →
    new ∉ spellingsArgs args → new ∉ spellingsArgs others →
    respellArgs old new args = respellArgs old new others → args = others
  | [], others, _, _, same => by
    cases others <;> simp only [respellArgs, reduceCtorEq] at same
    rfl
  | arg :: args, others, fresh, fresh', same => by
    cases others <;> simp only [respellArgs, reduceCtorEq] at same
    rw [spellingsArgs, List.mem_append, not_or] at fresh fresh'
    obtain ⟨first, rest⟩ := List.cons.inj same
    rw [respell_injective arg fresh.1 fresh'.1 first,
      respellArgs_injective args fresh.2 fresh'.2 rest]

end

/-- The term respelled if the old spelling is in force. -/
def respellIf (active : Bool) (old new : String) (term : Term) : Term :=
  if active then term.respell old new else term

theorem respellIf_const (active : Bool) (name : String) :
    (Term.const name).respellIf active old new = .const name := by
  cases active <;> simp [respellIf, respell]

theorem respellIf_var (active : Bool) (name : String) :
    (Term.var name).respellIf active old new = .var (respellingIf active old new name) := by
  cases active <;> simp [respellIf, respellingIf, respell]

theorem respellIf_app (active : Bool) (head : String) (args : List Term) :
    (Term.app head args).respellIf active old new =
      .app (respellingIf active old new head)
        (args.map fun arg => arg.respellIf active old new) := by
  have mapped : respellArgs old new args = args.map (respell old new) := by
    induction args with
    | nil => rfl
    | cons arg args ih => rw [respellArgs, ih, List.map_cons]
  cases active <;> simp [respellIf, respellingIf, respell, mapped]

/-- A binder with the old spelling takes it out of force. -/
theorem respellIf_lambda (active : Bool) (param : String) (body : Term) :
    (Term.lambda param body).respellIf active old new =
      .lambda param (body.respellIf (active && decide (param ≠ old)) old new) := by
  by_cases same : param = old <;> cases active <;> simp [respellIf, respell, same]

end Term

namespace Ty

mutual

/-- The type with `new` for every `old` in the terms of its equations. Names of types are apart. -/
def respell (old new : String) : Ty → Ty
  | .const name => .const name
  | .var name => .var name
  | .app head args => .app head (respellArgs old new args)
  | .eq left right => .eq (left.respell old new) (right.respell old new)
  | .arrow source target => .arrow (respell old new source) (respell old new target)

def respellArgs (old new : String) : List Ty → List Ty
  | [] => []
  | arg :: args => respell old new arg :: respellArgs old new args

end

/-- The type respelled if the old spelling is in force. -/
def respellIf (active : Bool) (old new : String) (type : Ty) : Ty :=
  if active then type.respell old new else type

section RespellIf

variable {old new : String} (active : Bool)

theorem respellIf_const (name : String) :
    (Ty.const name).respellIf active old new = .const name := by
  cases active <;> simp [respellIf, respell]

theorem respellIf_var (name : String) : (Ty.var name).respellIf active old new = .var name := by
  cases active <;> simp [respellIf, respell]

theorem respellIf_app (head : String) (args : List Ty) :
    (Ty.app head args).respellIf active old new =
      .app head (args.map fun arg => arg.respellIf active old new) := by
  have mapped : respellArgs old new args = args.map (respell old new) := by
    induction args with
    | nil => rfl
    | cons arg args ih => rw [respellArgs, ih, List.map_cons]
  cases active <;> simp [respellIf, respell, mapped]

theorem respellIf_eq (left right : Term) :
    (Ty.eq left right).respellIf active old new =
      .eq (left.respellIf active old new) (right.respellIf active old new) := by
  cases active <;> simp [respellIf, respell, Term.respellIf]

theorem respellIf_arrow (source target : Ty) :
    (Ty.arrow source target).respellIf active old new =
      .arrow (source.respellIf active old new) (target.respellIf active old new) := by
  cases active <;> simp [respellIf, respell]

end RespellIf

mutual

/-- The names in the terms of a type. -/
def spellings : Ty → List String
  | .const _ => []
  | .var _ => []
  | .app _ args => spellingsArgs args
  | .eq left right => left.spellings ++ right.spellings
  | .arrow source target => spellings source ++ spellings target

def spellingsArgs : List Ty → List String
  | [] => []
  | arg :: args => spellings arg ++ spellingsArgs args

end

end Ty

namespace Signature

/-- The parameters with the one called `old` declared as `new`. It is in scope in its own type. -/
def respellParams (old new : String) : List Param → List Param
  | [] => []
  | param :: params =>
    if param.name = old then
      ⟨new, param.type.respell old new⟩ ::
        params.map fun later => { later with type := later.type.respell old new }
    else param :: respellParams old new params

/-- The signature with its parameter `old` spelled `new`. -/
def respell (old new : String) (signature : Signature) : Signature :=
  if old ∈ signature.params.map Param.name then
    ⟨respellParams old new signature.params, signature.result.respell old new⟩
  else signature

theorem respell_of_declared {old new : String} {signature : Signature}
    (declared : old ∈ signature.params.map Param.name) :
    signature.respell old new =
      ⟨respellParams old new signature.params, signature.result.respell old new⟩ :=
  if_pos declared

/-- The names of parameters and those in the terms of their types. -/
def spellingsParams (params : List Param) : List String :=
  params.flatMap fun param => param.name :: param.type.spellings

/-- The names of the parameters and those in the terms of a signature. -/
def spellings (signature : Signature) : List String :=
  spellingsParams signature.params ++ signature.result.spellings

end Signature

/-! ### Respelling is a consistent renaming

A walk through both signatures keeps the pairs of names that correspond. They are pairs of the same
name, but for the pair of the two spellings. -/

namespace Pairs

/-- Every name corresponds to itself, or it is the old spelling and corresponds to the new one. -/
def Respell (old new : String) (pairs : Pairs) : Prop :=
  ∀ pair ∈ pairs, pair.1 = pair.2 ∧ pair.1 ≠ new ∨ pair = (old, new)

/-- Whether the old spelling stands for what is respelled. -/
def active (old new : String) : Pairs → Bool
  | [] => false
  | (left, right) :: pairs => if left = old then decide (right = new) else active old new pairs

variable {old new : String} {pairs : Pairs}

/-- A name is in scope on both sides and corresponds to what it becomes, or it is in scope on
neither and stays. -/
theorem Respell.paired_or_unpaired (respell : pairs.Respell old new) {name : String}
    (fresh : name ≠ new) :
    Paired pairs name (respellingIf (pairs.active old new) old new name) ∨
      Unpaired pairs name name ∧ respellingIf (pairs.active old new) old new name = name := by
  induction pairs with
  | nil => exact .inr ⟨⟨List.not_mem_nil, List.not_mem_nil⟩, rfl⟩
  | cons pair pairs ih =>
    obtain ⟨left, right⟩ := pair
    have inner := ih fun pair member => respell pair (List.mem_cons_of_mem _ member)
    have shape := respell (left, right) List.mem_cons_self
    simp only [Prod.mk.injEq] at shape
    by_cases here : left = name
    · -- the innermost pair decides
      subst here
      have image : respellingIf (active old new ((left, right) :: pairs)) old new left = right := by
        rw [active]
        grind [respellingIf, respelling]
      rw [image]
      exact .inl .here
    · have kept : respellingIf (active old new ((left, right) :: pairs)) old new name =
          respellingIf (active old new pairs) old new name := by
        by_cases same : name = old
        · rw [active, if_neg (same ▸ here)]
        · rw [respellingIf_of_ne _ same, respellingIf_of_ne _ same]
      rw [kept]
      rcases inner with paired | ⟨unpaired, stays⟩
      · refine .inl (.there (Ne.symm here) ?_ paired)
        grind [respellingIf, respelling]
      · refine .inr ⟨⟨?_, ?_⟩, stays⟩
        · exact List.not_mem_cons_of_ne_of_not_mem (Ne.symm here) unpaired.1
        · refine List.not_mem_cons_of_ne_of_not_mem ?_ unpaired.2
          rcases shape with ⟨rfl, -⟩ | ⟨-, rfl⟩
          · exact Ne.symm here
          · exact fresh

theorem active_append (bound known : Pairs) :
    active old new (bound ++ known) =
      if old ∈ bound.map Prod.fst then bound.active old new else known.active old new := by
  induction bound with
  | nil => rfl
  | cons pair bound ih =>
    obtain ⟨left, right⟩ := pair
    rw [List.cons_append, active, active, ih, List.map_cons]
    by_cases same : left = old
    · rw [if_pos same, if_pos (List.mem_cons.mpr (.inl same.symm)), if_pos same]
    · simp only [if_neg same, List.mem_cons, Ne.symm same, false_or]

theorem active_eq_false (absent : old ∉ pairs.map Prod.fst) : pairs.active old new = false := by
  induction pairs with
  | nil => rfl
  | cons pair pairs ih =>
    obtain ⟨left, right⟩ := pair
    rw [List.map_cons, List.mem_cons, not_or] at absent
    rw [active, if_neg (Ne.symm absent.1), ih absent.2]

/-- Names that are met or bound on the way correspond to themselves. -/
theorem Respell.cons (respell : pairs.Respell old new) {name : String} (fresh : name ≠ new) :
    Respell old new ((name, name) :: pairs) := by
  intro pair member
  rcases List.mem_cons.mp member with rfl | inner
  · exact .inl ⟨rfl, fresh⟩
  · exact respell pair inner

theorem active_cons {name : String} (fresh : name ≠ new) :
    active old new ((name, name) :: pairs) = (pairs.active old new && decide (name ≠ old)) := by
  rw [active]
  by_cases same : name = old
  · rw [if_pos same, decide_eq_false fresh]
    simp [same]
  · simp [same]

theorem respell_append {bound known : Pairs} :
    Respell old new (bound ++ known) ↔ bound.Respell old new ∧ known.Respell old new := by
  unfold Respell
  rw [List.forall_mem_append]

/-- What a walk makes of the names in scope: they still correspond as before. -/
structure Kept (old new : String) (known known' : Pairs) : Prop where
  respell : known'.Respell old new
  active : known'.active old new = known.active old new

end Pairs

namespace Term

variable {old new : String}

mutual

theorem renamed_respellIf : (term : Term) → {bound known : Pairs} → bound.Respell old new →
    known.Respell old new → new ∉ term.spellings →
    ∃ known', term.Renamed bound known
      (term.respellIf ((bound ++ known).active old new) old new) known' ∧
      Pairs.Kept old new known known'
  | .const name, bound, known, _, outer, _ => by
    rw [respellIf_const]
    exact ⟨known, .const name, outer, rfl⟩
  | .var name, bound, known, inner, outer, fresh => by
    rw [spellings, List.mem_singleton] at fresh
    rw [respellIf_var]
    rcases (Pairs.respell_append.mpr ⟨inner, outer⟩).paired_or_unpaired (Ne.symm fresh) with
      paired | ⟨unpaired, stays⟩
    · exact ⟨known, .inScope paired, outer, rfl⟩
    · rw [stays]
      refine ⟨(name, name) :: known, .met unpaired, outer.cons (Ne.symm fresh), ?_⟩
      rw [Pairs.active_cons (Ne.symm fresh)]
      by_cases same : name = old
      · -- the old spelling is met, so it was not in scope before
        have absent : old ∉ known.map Prod.fst := by
          intro member
          apply unpaired.1
          rw [List.map_append, same]
          exact List.mem_append_right _ member
        rw [Pairs.active_eq_false absent, Bool.false_and]
      · rw [decide_eq_true same, Bool.and_true]
  | .app head args, bound, known, inner, outer, fresh => by
    rw [spellings, List.mem_cons, not_or] at fresh
    rw [respellIf_app]
    obtain ⟨known', renamed, kept⟩ := renamedArgs_respellIf args inner outer fresh.2
    refine ⟨known', .app ?_ renamed, kept⟩
    rcases (Pairs.respell_append.mpr ⟨inner, outer⟩).paired_or_unpaired (Ne.symm fresh.1) with
      paired | ⟨unpaired, stays⟩
    · exact .inl paired
    · rw [stays]
      exact .inr ⟨unpaired, rfl⟩
  | .lambda param body, bound, known, inner, outer, fresh => by
    rw [spellings, List.mem_cons, not_or] at fresh
    obtain ⟨known', renamed, kept⟩ :=
      renamed_respellIf body (inner.cons (Ne.symm fresh.1)) outer fresh.2
    rw [List.cons_append, Pairs.active_cons (Ne.symm fresh.1)] at renamed
    rw [respellIf_lambda]
    exact ⟨known', .lambda renamed, kept⟩

theorem renamedArgs_respellIf : (args : List Term) → {bound known : Pairs} →
    bound.Respell old new → known.Respell old new → new ∉ spellingsArgs args →
    ∃ known', RenamedArgs bound known args
      (args.map fun arg => arg.respellIf ((bound ++ known).active old new) old new) known' ∧
      Pairs.Kept old new known known'
  | [], bound, known, _, outer, _ => ⟨known, .nil, outer, rfl⟩
  | arg :: args, bound, known, inner, outer, fresh => by
    rw [spellingsArgs, List.mem_append, not_or] at fresh
    obtain ⟨between, first, kept⟩ := renamed_respellIf arg inner outer fresh.1
    obtain ⟨known', rest, kept'⟩ := renamedArgs_respellIf args inner kept.respell fresh.2
    have same : (bound ++ between).active old new = (bound ++ known).active old new := by
      rw [Pairs.active_append, Pairs.active_append, kept.active]
    rw [same] at rest
    exact ⟨known', .cons first rest, kept'.respell, kept'.active.trans kept.active⟩

end

end Term

namespace Ty

variable {old new : String}

theorem renamedHead_self (head : String) : RenamedHead Eq head head := by
  cases constant : isTypeConstant head with
  | true => exact .inl ⟨constant, rfl⟩
  | false => exact .inr ⟨constant, constant, rfl⟩

mutual

theorem renamed_respellIf : (type : Ty) → {known : Pairs} → known.Respell old new →
    new ∉ type.spellings →
    ∃ known', type.Renamed Eq known (type.respellIf (known.active old new) old new) known' ∧
      Pairs.Kept old new known known'
  | .const name, known, respell, _ => by
    rw [respellIf_const]
    exact ⟨known, .const name, respell, rfl⟩
  | .var name, known, respell, _ => by
    rw [respellIf_var]
    exact ⟨known, .var rfl, respell, rfl⟩
  | .app head args, known, respell, fresh => by
    rw [respellIf_app]
    obtain ⟨known', renamed, kept⟩ := renamedArgs_respellIf args respell fresh
    exact ⟨known', .app (renamedHead_self head) renamed, kept⟩
  | .eq left right, known, respell, fresh => by
    rw [spellings, List.mem_append, not_or] at fresh
    rw [respellIf_eq]
    have outside : Pairs.Respell old new [] := fun _ member => by cases member
    obtain ⟨between, first, kept⟩ := left.renamed_respellIf outside respell fresh.1
    obtain ⟨known', second, kept'⟩ := right.renamed_respellIf outside kept.respell fresh.2
    rw [List.nil_append] at first
    rw [List.nil_append, kept.active] at second
    exact ⟨known', .eq first second, kept'.respell, kept'.active.trans kept.active⟩
  | .arrow source target, known, respell, fresh => by
    rw [spellings, List.mem_append, not_or] at fresh
    rw [respellIf_arrow]
    obtain ⟨between, first, kept⟩ := renamed_respellIf source respell fresh.1
    obtain ⟨known', second, kept'⟩ := renamed_respellIf target kept.respell fresh.2
    rw [kept.active] at second
    exact ⟨known', .arrow first second, kept'.respell, kept'.active.trans kept.active⟩

theorem renamedArgs_respellIf : (args : List Ty) → {known : Pairs} → known.Respell old new →
    new ∉ spellingsArgs args →
    ∃ known', RenamedArgs Eq known args
      (args.map fun arg => arg.respellIf (known.active old new) old new) known' ∧
      Pairs.Kept old new known known'
  | [], known, respell, _ => ⟨known, .nil, respell, rfl⟩
  | arg :: args, known, respell, fresh => by
    rw [spellingsArgs, List.mem_append, not_or] at fresh
    obtain ⟨between, first, kept⟩ := renamed_respellIf arg respell fresh.1
    obtain ⟨known', rest, kept'⟩ := renamedArgs_respellIf args kept.respell fresh.2
    rw [kept.active] at rest
    exact ⟨known', .cons first rest, kept'.respell, kept'.active.trans kept.active⟩

end

end Ty

namespace Signature

variable {old new : String}

/-- Parameters declared after the one that is respelled. -/
theorem renamedParams_later (params : List Param) {known : Pairs} (respell : known.Respell old new)
    (active : known.active old new = true) (apart : old ∉ params.map Param.name)
    (fresh : new ∉ spellingsParams params) :
    ∃ known', RenamedParams Eq known params
      (params.map fun later => { later with type := later.type.respell old new }) known' ∧
      Pairs.Kept old new known known' := by
  induction params generalizing known with
  | nil => exact ⟨known, .nil, respell, rfl⟩
  | cons param params ih =>
    rw [List.map_cons, List.mem_cons, not_or] at apart
    simp only [spellingsParams, List.flatMap_cons, List.mem_append, List.mem_cons, not_or] at fresh
    have declared := respell.cons (Ne.symm fresh.1.1)
    obtain ⟨between, first, kept⟩ := param.type.renamed_respellIf declared fresh.1.2
    have still : between.active old new = true := by
      rw [kept.active, Pairs.active_cons (Ne.symm fresh.1.1), active,
        decide_eq_true (Ne.symm apart.1)]
      rfl
    rw [← kept.active, still] at first
    obtain ⟨known', rest, kept'⟩ := ih kept.respell still apart.2 fresh.2
    exact ⟨known', .cons first rest, kept'.respell, by rw [kept'.active, still, active]⟩

theorem renamedParams_respell (params : List Param) {known : Pairs}
    (respell : known.Respell old new) (inactive : known.active old new = false)
    (distinct : (params.map Param.name).Nodup) (declared : old ∈ params.map Param.name)
    (fresh : new ∉ spellingsParams params) :
    ∃ known', RenamedParams Eq known params (respellParams old new params) known' ∧
      known'.Respell old new ∧ known'.active old new = true := by
  induction params generalizing known with
  | nil => cases declared
  | cons param params ih =>
    rw [List.map_cons, List.nodup_cons] at distinct
    simp only [spellingsParams, List.flatMap_cons, List.mem_append, List.mem_cons, not_or] at fresh
    rw [respellParams]
    by_cases here : param.name = old
    · -- from here on the old spelling is in force, in the type of the parameter already
      rw [if_pos here]
      have spelled : Pairs.Respell old new ((param.name, new) :: known) := by
        intro pair member
        rcases List.mem_cons.mp member with rfl | inner
        · exact .inr (by rw [here])
        · exact respell pair inner
      have active : Pairs.active old new ((param.name, new) :: known) = true := by
        rw [Pairs.active, if_pos here, decide_eq_true rfl]
      obtain ⟨between, first, kept⟩ := param.type.renamed_respellIf spelled fresh.1.2
      rw [active] at first
      have still := kept.active.trans active
      have apart : old ∉ params.map Param.name := by
        rw [← here]
        exact distinct.1
      obtain ⟨known', rest, kept'⟩ := renamedParams_later params kept.respell still apart fresh.2
      exact ⟨known', .cons first rest, kept'.respell, kept'.active.trans still⟩
    · rw [if_neg here]
      have later : old ∈ params.map Param.name :=
        (List.mem_cons.mp declared).resolve_left (Ne.symm here)
      obtain ⟨between, first, kept⟩ :=
        param.type.renamed_respellIf (respell.cons (Ne.symm fresh.1.1)) fresh.1.2
      have still : between.active old new = false := by
        rw [kept.active, Pairs.active_cons (Ne.symm fresh.1.1), inactive, Bool.false_and]
      rw [← kept.active, still] at first
      obtain ⟨known', rest, result⟩ := ih kept.respell still distinct.2 later fresh.2
      exact ⟨known', .cons first rest, result⟩

/-- A signature stays the same up to the choice of names when a parameter is respelled. -/
theorem alike_respell {signature : Signature} (distinct : (signature.params.map Param.name).Nodup)
    (declared : old ∈ signature.params.map Param.name) (fresh : new ∉ signature.spellings) :
    signature.alike (signature.respell old new) = true := by
  rw [spellings, List.mem_append, not_or] at fresh
  have nothing : Pairs.Respell old new [] := fun _ member => by cases member
  obtain ⟨known, params, respell, active⟩ :=
    renamedParams_respell signature.params nothing rfl distinct declared fresh.1
  obtain ⟨known', result, -⟩ := signature.result.renamed_respellIf respell fresh.2
  rw [active] at result
  refine Renamed.alike ⟨Eq, ⟨?_, ?_⟩, known, known', ?_⟩
  · rintro a b c rfl rfl
    rfl
  · rintro a b c rfl rfl
    rfl
  · rw [respell_of_declared declared]
    exact ⟨params, result⟩

end Signature

end ProofScript
