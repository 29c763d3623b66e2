import Mathlib.Data.List.TakeWhile
import ProofScript.Proofs.Grammar.Printing
import ProofScript.Proofs.Reading

/-!
# Printing a signature and reading it back

A parameter is printed without its name if the name looks like a positional one, whether it is one
or was declared that way. Reading gives positional names to the parameters that stand without a
name, counting from the first of them on, and no named parameter can be read behind them.

So what is printed can be read if and only if the parameters without a name are the last ones, and
then they are numbered anew. Nothing else about the signature changes.

## Main results

`Signature.WellFormed.parse_render_eq_ok_iff`: what is read from the text of a signature.

`parse_render_of_parsed`: terms, types and signatures that have been read are read again from what
is printed for them, if no declared parameter looks positional.
-/
namespace ProofScript

open Grammar

/-! ### Parameters without names -/

theorem Param.isAnonymous_anonymous (index : Nat) (type : Ty) :
    (Param.anonymous index type).isAnonymous = true := by
  rw [isAnonymous, anonymous, String.toList_append]
  exact List.isPrefixOf_iff_prefix.mpr (List.prefix_append _ _)

namespace Grammar

theorem isAnonymous_of_mem_anonymousParams {types : List Ty} {index : Nat} {param : Param}
    (member : param ∈ anonymousParams index types) : param.isAnonymous = true := by
  induction types generalizing index with
  | nil => cases member
  | cons type types ih =>
    rcases List.mem_cons.mp member with rfl | later
    · exact Param.isAnonymous_anonymous index type
    · exact ih later

theorem map_type_anonymousParams (index : Nat) (types : List Ty) :
    (anonymousParams index types).map Param.type = types := by
  induction types generalizing index with
  | nil => rfl
  | cons type types ih => rw [anonymousParams, List.map_cons, ih]; rfl

end Grammar

namespace Ty

variable {result : Ty}

theorem arrowArgs_foldr (ends : ∀ source target, result ≠ .arrow source target) (types : List Ty) :
    (types.foldr .arrow result).arrowArgs = types := by
  induction types with
  | nil =>
    cases result with
    | arrow source target => exact absurd rfl (ends source target)
    | _ => rfl
  | cons type types ih => rw [List.foldr_cons, arrowArgs, ih]

theorem arrowResult_foldr (ends : ∀ source target, result ≠ .arrow source target)
    (types : List Ty) : (types.foldr .arrow result).arrowResult = result := by
  induction types with
  | nil =>
    cases result with
    | arrow source target => exact absurd rfl (ends source target)
    | _ => rfl
  | cons type types ih => rw [List.foldr_cons, arrowResult, ih]

end Ty

/-! ### The tokens that are printed for parameters -/

namespace Param

variable {param : Param}

/-- The parameter as it is written with its name. -/
def renderNamed (param : Param) : String :=
  "(" ++ param.name ++ " : " ++ param.type.render ++ ")"

theorem render_of_named (named : param.isAnonymous = false) :
    param.render = param.renderNamed := by
  rw [render, named, if_neg Bool.false_ne_true, renderNamed]

/-- A parameter that is written with its name is read as a named one, whatever the name is. -/
theorem exists_namedTree (wellFormed : param.WellFormed) :
    ∃ tree : NamedTree, tree.param? = some param ∧
      ∀ characters tokens, Spells characters tokens →
        Spells (param.renderNamed.toList ++ (" -> ".toList ++ characters))
          (tree.tokens ++ tokens) := by
  obtain ⟨type, printed⟩ := param.type.exists_printedAs wellFormed.type
  refine ⟨⟨param.name, ⟨wellFormed.name.legal, wellFormed.binder⟩, type⟩, ?_, ?_⟩
  · rw [NamedTree.param?, printed.derived]
    rfl
  · intro characters tokens spells
    have closed : Spells (')' :: (" -> ".toList ++ characters)) (.rightParen :: .arrow :: tokens) :=
      Spells.rightParen.append spells.arrow rfl
    have typed := (printed.spells.append closed rfl).colon
    have whole := (wellFormed.name.spells.append typed rfl).leftParen
    simp only [renderNamed, String.toList_append, List.append_assoc, NamedTree.tokens,
      List.cons_append, List.nil_append] at whole ⊢
    exact whole

theorem exists_named (wellFormed : param.WellFormed) (named : param.isAnonymous = false) :
    ∃ tree : NamedTree, tree.param? = some param ∧
      ∀ characters tokens, Spells characters tokens →
        Spells (param.render.toList ++ (" -> ".toList ++ characters)) (tree.tokens ++ tokens) := by
  rw [render_of_named named]
  exact exists_namedTree wellFormed

theorem exists_unnamed (wellFormed : param.WellFormed) (unnamed : param.isAnonymous = true) :
    ∃ items : TypeItemsTree, items.items?.bind assembleType = some param.type ∧
      ∀ characters tokens, Spells characters tokens →
        Spells (param.render.toList ++ (" -> ".toList ++ characters))
          (items.tokens ++ .arrow :: tokens) := by
  obtain ⟨type, printed⟩ := param.type.exists_printedAs wellFormed.type
  obtain ⟨items, derived, spells⟩ := printed.renderSource
  refine ⟨items, derived, fun characters tokens more => ?_⟩
  rw [render, unnamed, if_pos rfl]
  exact spells.append more.arrow rfl

end Param

namespace Signature

variable {params : List Param}

theorem renderParams_append (params others : List Param) :
    renderParams (params ++ others) = renderParams params ++ renderParams others := by
  induction params with
  | nil => rw [List.nil_append, renderParams, String.empty_append]
  | cons param params ih => simp only [List.cons_append, renderParams, ih, String.append_assoc]

theorem toList_renderParams_cons (param : Param) (params : List Param) (characters : List Char) :
    (renderParams (param :: params)).toList ++ characters =
      param.render.toList ++ (" -> ".toList ++ ((renderParams params).toList ++ characters)) := by
  simp only [renderParams, String.toList_append, List.append_assoc]

/-- The parameters as they are written with their names, each followed by an arrow. -/
def renderParamsNamed : List Param → String
  | [] => ""
  | param :: params => param.renderNamed ++ " -> " ++ renderParamsNamed params

theorem renderParams_of_named (named : ∀ param ∈ params, param.isAnonymous = false) :
    renderParams params = renderParamsNamed params := by
  induction params with
  | nil => rfl
  | cons param params ih =>
    rw [List.forall_mem_cons] at named
    rw [renderParams, renderParamsNamed, Param.render_of_named named.1, ih named.2]

/-- Parameters that are written with their names are read as named ones, whatever the names are. -/
theorem exists_namedTrees_renderParamsNamed (wellFormed : ∀ param ∈ params, param.WellFormed) :
    ∃ trees : List NamedTree, trees.mapM NamedTree.param? = some params ∧
      ∀ characters tokens, Spells characters tokens →
        Spells ((renderParamsNamed params).toList ++ characters)
          (trees.flatMap NamedTree.tokens ++ tokens) := by
  induction params with
  | nil => exact ⟨[], rfl, fun characters tokens spells => spells⟩
  | cons param params ih =>
    rw [List.forall_mem_cons] at wellFormed
    obtain ⟨tree, derived, first⟩ := Param.exists_namedTree wellFormed.1
    obtain ⟨trees, derivedTrees, rest⟩ := ih wellFormed.2
    refine ⟨tree :: trees, by simp [List.mapM_cons, derived, derivedTrees], ?_⟩
    intro characters tokens spells
    have whole := first _ _ (rest characters tokens spells)
    simpa only [renderParamsNamed, String.toList_append, List.flatMap_cons, List.append_assoc]
      using whole

theorem exists_namedTrees (wellFormed : ∀ param ∈ params, param.WellFormed)
    (named : ∀ param ∈ params, param.isAnonymous = false) :
    ∃ trees : List NamedTree, trees.mapM NamedTree.param? = some params ∧
      ∀ characters tokens, Spells characters tokens →
        Spells ((renderParams params).toList ++ characters)
          (trees.flatMap NamedTree.tokens ++ tokens) := by
  rw [renderParams_of_named named]
  exact exists_namedTrees_renderParamsNamed wellFormed

/-- Parameters without names are read as a chain of arrows. -/
theorem exists_chain {result : Ty} (wellFormed : ∀ param ∈ params, param.WellFormed)
    (unnamed : ∀ param ∈ params, param.isAnonymous = true) (resultWellFormed : result.WellFormed) :
    ∃ tree : TypeTree, tree.type? = some ((params.map Param.type).foldr .arrow result) ∧
      Spells ((renderParams params).toList ++ result.render.toList) tree.tokens := by
  induction params with
  | nil =>
    obtain ⟨tree, printed⟩ := result.exists_printedAs resultWellFormed
    exact ⟨tree, printed.derived, printed.spells⟩
  | cons param params ih =>
    rw [List.forall_mem_cons] at wellFormed unnamed
    obtain ⟨items, derived, first⟩ := Param.exists_unnamed wellFormed.1 unnamed.1
    obtain ⟨tree, derivedTree, spells⟩ := ih wellFormed.2 unnamed.2
    refine ⟨.arrow items tree, by simp [TypeTree.type?, derived, derivedTree], ?_⟩
    rw [toList_renderParams_cons]
    exact first _ _ spells

/-- Whatever the parameters are, a colon is printed if one of them is printed with its name. -/
theorem exists_paramTokens (wellFormed : ∀ param ∈ params, param.WellFormed) :
    ∃ printed : List Token,
      (∀ characters tokens, Spells characters tokens →
        Spells ((renderParams params).toList ++ characters) (printed ++ tokens)) ∧
      ((∃ param ∈ params, param.isAnonymous = false) → .colon ∈ printed) := by
  induction params with
  | nil => exact ⟨[], fun characters tokens spells => spells, fun ⟨_, member, _⟩ => by cases member⟩
  | cons param params ih =>
    rw [List.forall_mem_cons] at wellFormed
    obtain ⟨printed, rest, colon⟩ := ih wellFormed.2
    cases unnamed : param.isAnonymous with
    | false =>
      obtain ⟨tree, -, first⟩ := Param.exists_named wellFormed.1 unnamed
      refine ⟨tree.tokens ++ printed, fun characters tokens spells => ?_, fun _ => ?_⟩
      · rw [toList_renderParams_cons, List.append_assoc]
        exact first _ _ (rest characters tokens spells)
      · simp [NamedTree.tokens]
    | true =>
      obtain ⟨items, -, first⟩ := Param.exists_unnamed wellFormed.1 unnamed
      refine ⟨items.tokens ++ .arrow :: printed, fun characters tokens spells => ?_, ?_⟩
      · rw [toList_renderParams_cons, List.append_assoc, List.cons_append]
        exact first _ _ (rest characters tokens spells)
      · rintro ⟨named, member, isNamed⟩
        rcases List.mem_cons.mp member with rfl | later
        · rw [unnamed] at isNamed
          cases isNamed
        · have among := colon ⟨named, later, isNamed⟩
          simp [among]

/-- If the first parameter is printed without its name, no named parameter is opened there, whatever
the others are. -/
theorem exists_unnamedTokens {first : Param} {others : List Param} {result : Ty}
    (wellFormed : ∀ param ∈ first :: others, param.WellFormed) (unnamed : first.isAnonymous = true)
    (resultWellFormed : result.WellFormed) :
    ∃ tokens, Spells ((renderParams (first :: others)).toList ++ result.render.toList) tokens ∧
      opensNamed tokens = false ∧
      ((∃ param ∈ others, param.isAnonymous = false) → .colon ∈ tokens) := by
  rw [List.forall_mem_cons] at wellFormed
  obtain ⟨items, -, firstSpells⟩ := Param.exists_unnamed wellFormed.1 unnamed
  obtain ⟨printed, othersSpell, colon⟩ := exists_paramTokens wellFormed.2
  obtain ⟨resultTree, resultPrinted⟩ := result.exists_printedAs resultWellFormed
  refine ⟨items.tokens ++ .arrow :: (printed ++ resultTree.tokens), ?_, ?_, fun named => ?_⟩
  · rw [toList_renderParams_cons]
    exact firstSpells _ _ (othersSpell _ _ resultPrinted.spells)
  · exact items.opensNamed_tokens
  · simp [colon named]

/-! ### What is read from the text of a signature -/

/-- The parameters before the first one that is printed without its name. -/
def leading (signature : Signature) : List Param :=
  signature.params.takeWhile fun param => !param.isAnonymous

/-- The parameters from the first one on that is printed without its name. -/
def trailing (signature : Signature) : List Param :=
  signature.params.dropWhile fun param => !param.isAnonymous

/-- The parameters that are printed without their names are the last ones. -/
def PositionalLast (signature : Signature) : Prop :=
  ∀ param ∈ signature.trailing, param.isAnonymous = true

/-- The signature with positional names for the parameters from the first one on that is printed
without its name. Nothing that refers to them is changed. -/
def renumbered (signature : Signature) : Signature :=
  ⟨signature.leading ++ anonymousParams 0 (signature.trailing.map Param.type), signature.result⟩

variable {signature again : Signature}

theorem leading_append_trailing (signature : Signature) :
    signature.leading ++ signature.trailing = signature.params :=
  List.takeWhile_append_dropWhile

theorem toList_render (signature : Signature) :
    signature.render.toList = (renderParams signature.leading).toList ++
      ((renderParams signature.trailing).toList ++ signature.result.render.toList) := by
  rw [render, ← leading_append_trailing, renderParams_append, String.toList_append,
    String.toList_append, List.append_assoc]

theorem named_of_mem_leading {param : Param} (member : param ∈ signature.leading) :
    param.isAnonymous = false := by
  simpa using List.mem_takeWhile_imp member

theorem isAnonymous_of_trailing {first : Param} {others : List Param}
    (split : signature.trailing = first :: others) : first.isAnonymous = true := by
  have stops := List.head?_dropWhile_not (fun param : Param => !param.isAnonymous) signature.params
  rw [show signature.params.dropWhile _ = first :: others from split] at stops
  simpa using stops

theorem WellFormed.leading_nodup (wellFormed : signature.WellFormed) :
    (signature.leading.map Param.name).Nodup := by
  have distinct := wellFormed.distinct
  rw [← leading_append_trailing, List.map_append] at distinct
  exact distinct.of_append_left

/-- A parameter that is printed with its name has no positional one. -/
theorem WellFormed.renumbered_nodup (wellFormed : signature.WellFormed) :
    (signature.renumbered.params.map Param.name).Nodup := by
  rw [renumbered, List.map_append]
  refine wellFormed.leading_nodup.append (anonymousParams_nodup 0 _) ?_
  intro name written positional
  obtain ⟨param, member, rfl⟩ := List.mem_map.mp written
  obtain ⟨other, among, same⟩ := List.mem_map.mp positional
  have named := named_of_mem_leading member
  have unnamed := isAnonymous_of_mem_anonymousParams among
  rw [Param.isAnonymous] at named unnamed
  rw [same, named] at unnamed
  cases unnamed

/-- The signature is read from its text if the parameters without names are the last ones. -/
theorem WellFormed.parse_render (wellFormed : signature.WellFormed)
    (last : signature.PositionalLast) :
    Signature.parse signature.render = .ok signature.renumbered := by
  have params := wellFormed.params
  rw [← leading_append_trailing, List.forall_mem_append] at params
  obtain ⟨trees, derived, leads⟩ :=
    exists_namedTrees params.1 fun param member => named_of_mem_leading member
  obtain ⟨chain, derivedChain, spells⟩ := exists_chain params.2 last wellFormed.result
  let tree : SignatureTree := ⟨trees, chain⟩
  have spelled : Spells signature.render.toList tree.tokens := by
    rw [toList_render]
    exact leads _ _ spells
  rw [Signature.parse, readText_eq_ok (lex_of_spells spelled), signature_eq_ok_iff]
  refine ⟨tree, rfl, SignatureTree.signature?_eq_some.mpr ⟨_, _, derived, derivedChain, ?_⟩⟩
  rw [Ty.arrowArgs_foldr wellFormed.ends, Ty.arrowResult_foldr wellFormed.ends]
  exact ⟨wellFormed.renumbered_nodup, rfl⟩

/-- Nothing is read from the text if a parameter with a name stands behind one without. -/
theorem WellFormed.positionalLast (wellFormed : signature.WellFormed)
    (parsed : Signature.parse signature.render = .ok again) : signature.PositionalLast := by
  have params := wellFormed.params
  rw [← leading_append_trailing, List.forall_mem_append] at params
  obtain ⟨trees, derived, leads⟩ :=
    exists_namedTrees params.1 fun param member => named_of_mem_leading member
  cases split : signature.trailing with
  | nil =>
    intro param member
    rw [split] at member
    cases member
  | cons first others =>
    rw [split] at params
    have unnamed := isAnonymous_of_trailing split
    obtain ⟨tokens, spells, ended, colon⟩ :=
      exists_unnamedTokens params.2 unnamed wellFormed.result
    have spelled : Spells signature.render.toList
        (trees.flatMap NamedTree.tokens ++ tokens) := by
      rw [toList_render, split]
      exact leads _ _ spells
    rw [Signature.parse, readText_eq_ok (lex_of_spells spelled), Grammar.signature] at parsed
    obtain ⟨⟨named, rest⟩, readNamed, read⟩ := bind_eq_ok.mp parsed
    -- the named parameters end before the first one without a name
    rw [namedParams_tokens trees derived wellFormed.leading_nodup ended
      (length_le_tokens trees _)] at readNamed
    cases readNamed
    -- so all the others have to be read as one type, in which there is no colon
    obtain ⟨residual, readResidual, -⟩ := bind_eq_ok.mp read
    obtain ⟨tree, rfl, -⟩ := complete_type_eq_ok.mp readResidual
    intro param member
    rw [split] at member
    rcases List.mem_cons.mp member with rfl | later
    · exact unnamed
    · by_contra named
      exact tree.colon_not_mem (colon ⟨param, later, Bool.not_eq_true _ ▸ named⟩)

/-- What is read from the text of a signature. -/
theorem WellFormed.parse_render_eq_ok_iff (wellFormed : signature.WellFormed) :
    Signature.parse signature.render = .ok again ↔
      signature.PositionalLast ∧ again = signature.renumbered := by
  constructor
  · intro parsed
    have last := wellFormed.positionalLast parsed
    rw [wellFormed.parse_render last] at parsed
    cases parsed
    exact ⟨last, rfl⟩
  · rintro ⟨last, rfl⟩
    exact wellFormed.parse_render last

/-! ### Parameters that are declared -/

/-- The parameters that `text` declares with their names. -/
def declared (text : String) : List Param :=
  match lex text with
  | .error _ => []
  | .ok tokens =>
    match namedParams tokens.length [] tokens with
    | .error _ => []
    | .ok (named, _) => named

/-- The declared parameters come first, and the others have positional names. -/
theorem params_of_parse {text : String} (parsed : Signature.parse text = .ok signature) :
    ∃ types, signature.params = declared text ++ anonymousParams 0 types := by
  obtain ⟨tokens, lexed, read⟩ := bind_eq_ok.mp parsed
  rw [mapError_eq_ok] at lexed read
  obtain ⟨⟨named, rest⟩, readNamed, read⟩ := bind_eq_ok.mp read
  obtain ⟨residual, -, closed⟩ := bind_eq_ok.mp read
  have distinct := namedParams_nodup readNamed List.nodup_nil
  obtain ⟨-, rfl⟩ := (closeSignature_eq_ok distinct).mp closed
  refine ⟨residual.arrowArgs, ?_⟩
  simp only [declared, lexed, readNamed]

variable {named : List Param} {types : List Ty}

theorem leading_of_params (params : signature.params = named ++ anonymousParams 0 types)
    (spelled : ∀ param ∈ named, param.isAnonymous = false) : signature.leading = named := by
  rw [leading, params, List.takeWhile_append_of_pos (by simpa using spelled)]
  cases types with
  | nil => rw [anonymousParams, List.takeWhile_nil, List.append_nil]
  | cons type types =>
    rw [anonymousParams, List.takeWhile_cons_of_neg, List.append_nil]
    simp [Param.isAnonymous_anonymous]

theorem trailing_of_params (params : signature.params = named ++ anonymousParams 0 types)
    (spelled : ∀ param ∈ named, param.isAnonymous = false) :
    signature.trailing = anonymousParams 0 types := by
  have whole := leading_append_trailing signature
  rw [leading_of_params params spelled, params] at whole
  exact List.append_cancel_left whole

/-- A signature is read from its own text if its parameters without names are numbered by their
position, behind all those with names. -/
theorem WellFormed.parse_render_self (wellFormed : signature.WellFormed)
    (params : signature.params = named ++ anonymousParams 0 types)
    (spelled : ∀ param ∈ named, param.isAnonymous = false) :
    Signature.parse signature.render = .ok signature := by
  have leading := leading_of_params params spelled
  have trailing := trailing_of_params params spelled
  have last : signature.PositionalLast := by
    intro param member
    rw [trailing] at member
    exact isAnonymous_of_mem_anonymousParams member
  -- numbering the parameters anew gives them the numbers that they have
  have same : signature.renumbered = signature := by
    rw [renumbered, leading, trailing, map_type_anonymousParams, ← params]
  rw [wellFormed.parse_render last, same]

end Signature

/-! ### What was read is read again -/

/-- What has been read is read again from the text that is printed for it. For a signature this
needs that no declared parameter looks like a positional one. -/
theorem parse_render_of_parsed (text : String) :
    (∀ term, Term.parse text = .ok term → Term.parse term.render = .ok term) ∧
      (∀ type, Ty.parse text = .ok type → Ty.parse type.render = .ok type) ∧
      ∀ signature, Signature.parse text = .ok signature →
        (∀ param ∈ Signature.declared text, param.isAnonymous = false) →
          Signature.parse signature.render = .ok signature := by
  refine ⟨fun term parsed => ?_, fun type parsed => ?_, fun signature parsed spelled => ?_⟩
  · exact Term.parse_render (Term.wellFormed_of_parse parsed)
  · exact Ty.parse_render (Ty.wellFormed_of_parse parsed)
  · obtain ⟨types, params⟩ := Signature.params_of_parse parsed
    exact (Signature.wellFormed_of_parse parsed).parse_render_self params spelled

namespace Grammar

/-- Functions as arguments, one of which returns a function. -/
def nestedTerm : Term :=
  .app "f" [.lambda "x" (.lambda "y" (.app "g" [.var "x", .var "y"])), .app "S" [.const "Z"],
    .lambda "z" (.app "h" [.var "z"])]

/-- An equality between functions behind a function type that takes an equality. -/
def nestedType : Ty :=
  .arrow (.arrow (.eq (.var "n") (.const "Z")) (.app "List" [.const "Nat"]))
    (.eq (.lambda "x" (.var "x")) (.app "g" [.lambda "y" (.var "y")]))

/-- A declared parameter and a positional one. -/
def nestedSignature : Signature where
  params := [⟨"f", .arrow (.arrow (.const "Nat") (.const "Nat")) (.const "Nat")⟩,
    ⟨"_param_0", .eq (.app "f" [.var "s"]) (.const "Z")⟩]
  result := .eq (.app "f" [.lambda "x" (.var "x")]) (.const "Z")

end Grammar

theorem parse_render_of_parsed_nested :
    Term.parse "f (\\x => \\y => (g x (y))) (S  Z) \\z => (h) z" = .ok nestedTerm ∧
      Term.parse nestedTerm.render = .ok nestedTerm ∧
      Ty.parse "((n = (Z)) -> List (Nat)) -> (\\x => x = g \\y => y)" = .ok nestedType ∧
      Ty.parse nestedType.render = .ok nestedType ∧
      Signature.parse "(f:(Nat->Nat)->Nat) -> (f s = Z) -> f (\\x => x) = (Z)" =
        .ok nestedSignature ∧
      Signature.parse nestedSignature.render = .ok nestedSignature := by
  have term : Term.parse "f (\\x => \\y => (g x (y))) (S  Z) \\z => (h) z" = .ok nestedTerm :=
    Term.parse_ofList _ (by decide +kernel)
  have type : Ty.parse "((n = (Z)) -> List (Nat)) -> (\\x => x = g \\y => y)" = .ok nestedType :=
    Ty.parse_ofList _ (by decide +kernel)
  have signature : Signature.parse "(f:(Nat->Nat)->Nat) -> (f s = Z) -> f (\\x => x) = (Z)" =
      .ok nestedSignature :=
    Signature.parse_ofList _ (by decide +kernel)
  have spelled : ∀ param ∈
      Signature.declared "(f:(Nat->Nat)->Nat) -> (f s = Z) -> f (\\x => x) = (Z)",
      param.isAnonymous = false := by
    decide +kernel
  exact ⟨term, (parse_render_of_parsed _).1 _ term, type, (parse_render_of_parsed _).2.1 _ type,
    signature, (parse_render_of_parsed _).2.2 _ signature spelled⟩

end ProofScript
