import EnclaveRegistry.Proofs.Json.Tree

/-! # One member in place of another

While the members of an object are read, what follows does not depend on those before. Two readings
that differ in the first member of the outermost object stay apart in nothing else, whatever tokens
follow and however often containers are opened inside.
-/
namespace EnclaveRegistry.Json

variable {a b : RawText × Tree}

mutual

/-- Whether open containers are the same but for the first member of the outermost one, which is `a`
in one case and `b` in the other. -/
inductive SameStack (a b : RawText × Tree) : List Open → List Open → Prop
  | list (before : List Tree) {stack stack' : List Open} (around : SameStack a b stack stack') :
    SameStack a b (.list before :: stack) (.list before :: stack')
  | member (key : RawText) {before before' : List (RawText × Tree)} {stack stack' : List Open}
      (around : SameObject a b before stack before' stack') :
    SameStack a b (.member before key :: stack) (.member before' key :: stack')

inductive SameObject (a b : RawText × Tree) :
    List (RawText × Tree) → List Open → List (RawText × Tree) → List Open → Prop
  | outermost (before : List (RawText × Tree)) :
    SameObject a b (before ++ [a]) [] (before ++ [b]) []
  | inner (before : List (RawText × Tree)) {stack stack' : List Open}
      (around : SameStack a b stack stack') : SameObject a b before stack before stack'

end

inductive SameStage (a b : RawText × Tree) : Stage → Stage → Prop
  | value {stack stack'} (h : SameStack a b stack stack') :
    SameStage a b (.value stack) (.value stack')
  | firstItem {stack stack'} (h : SameStack a b stack stack') :
    SameStage a b (.firstItem stack) (.firstItem stack')
  | nextItem (before) {stack stack'} (h : SameStack a b stack stack') :
    SameStage a b (.nextItem before stack) (.nextItem before stack')
  | afterItem (before) {stack stack'} (h : SameStack a b stack stack') :
    SameStage a b (.afterItem before stack) (.afterItem before stack')
  | nextKey {before before' stack stack'} (h : SameObject a b before stack before' stack') :
    SameStage a b (.nextKey before stack) (.nextKey before' stack')
  | colon (key) {before before' stack stack'} (h : SameObject a b before stack before' stack') :
    SameStage a b (.colon before key stack) (.colon before' key stack')
  | afterMember {before before' stack stack'} (h : SameObject a b before stack before' stack') :
    SameStage a b (.afterMember before stack) (.afterMember before' stack')

/-- Whether two trees are objects that differ in their first member only. -/
def SameTree (a b : RawText × Tree) (tree tree' : Tree) : Prop :=
  ∃ members ending, tree = .object (a :: members) ending ∧ tree' = .object (b :: members) ending

inductive SameStep (a b : RawText × Tree) : Step → Step → Prop
  | next {stage stage'} (h : SameStage a b stage stage') : SameStep a b (.next stage) (.next stage')
  | done {tree tree'} (h : SameTree a b tree tree') : SameStep a b (.done tree) (.done tree')

theorem SameObject.cons (member : RawText × Tree) {before before' : List (RawText × Tree)}
    {stack stack' : List Open} (h : SameObject a b before stack before' stack') :
    SameObject a b (member :: before) stack (member :: before') stack' := by
  cases h with
  | outermost before => exact .outermost (member :: before)
  | inner before around => exact .inner (member :: before) around

/-! ## Containers that are closed -/

mutual

theorem SameStack.breakOff {stack stack' : List Open} :
    SameStack a b stack stack' → (tree : Tree) →
      SameTree a b (breakOff tree stack) (breakOff tree stack')
  | .list before around, tree => around.breakOff (.list (tree :: before).reverse .ended)
  | .member key around, tree => around.breakOff_cons (key, tree) .ended

theorem SameObject.breakOff_cons {before before' : List (RawText × Tree)}
    {stack stack' : List Open} : SameObject a b before stack before' stack' →
      (member : RawText × Tree) → (ending : ObjectEnd) →
        SameTree a b (breakOff (.object (member :: before).reverse ending) stack)
          (breakOff (.object (member :: before').reverse ending) stack')
  | .outermost before, member, ending => by
    refine ⟨(member :: before).reverse, ending, ?_, ?_⟩ <;> simp [Json.breakOff]
  | .inner before around, member, ending =>
    around.breakOff (.object (member :: before).reverse ending)

end

theorem SameObject.breakOff {before before' : List (RawText × Tree)} {stack stack' : List Open}
    (h : SameObject a b before stack before' stack') (ending : ObjectEnd) :
    SameTree a b (breakOff (.object before.reverse ending) stack)
      (breakOff (.object before'.reverse ending) stack') := by
  cases h with
  | outermost before => refine ⟨before.reverse, ending, ?_, ?_⟩ <;> simp [Json.breakOff]
  | inner before around => exact around.breakOff (.object before.reverse ending)

theorem SameStack.complete {stack stack' : List Open} (h : SameStack a b stack stack')
    (tree : Tree) : SameStep a b (complete tree stack) (complete tree stack') := by
  cases h with
  | list before around => exact .next (.afterItem (tree :: before) around)
  | member key around => exact .next (.afterMember (around.cons (key, tree)))

theorem SameObject.complete {before before' : List (RawText × Tree)} {stack stack' : List Open}
    (h : SameObject a b before stack before' stack') :
    SameStep a b (complete (.object before.reverse .closed) stack)
      (complete (.object before'.reverse .closed) stack') := by
  cases h with
  | outermost before => exact .done ⟨before.reverse, .closed, by simp, by simp⟩
  | inner before around => exact around.complete (.object before.reverse .closed)

/-! ## One token -/

theorem SameStack.value {stack stack' : List Open} (h : SameStack a b stack stack')
    (token : Token) : SameStep a b (token.value stack) (token.value stack') := by
  cases token with
  | null => exact h.complete .null
  | bool value => exact h.complete (.bool value)
  | numeral n => exact h.complete (.numeral n)
  | text raw => exact h.complete (.text raw)
  | openList => exact .next (.firstItem h)
  | openObject => exact .next (.nextKey (.inner [] h))
  | brokenLiteral atEnd =>
    cases atEnd with
    | true => exact .done (h.breakOff (.gap .literalEnded))
    | false => exact .done (h.breakOff (.gap .literalBroken))
  | _ => exact .done (h.breakOff (.gap .absent))

theorem SameObject.nextKey {before before' : List (RawText × Tree)} {stack stack' : List Open}
    (h : SameObject a b before stack before' stack') (token : Token) :
    SameStep a b ((Stage.nextKey before stack).step token)
      ((Stage.nextKey before' stack').step token) := by
  cases token with
  | text raw => cases before <;> cases before' <;> exact .next (.colon raw h)
  | closeObject =>
    have hbroken := h.breakOff .trailingComma
    cases h with
    | outermost before => cases before <;> exact .done hbroken
    | inner before around =>
      cases before with
      | nil => exact around.complete (.object [] .closed)
      | cons member before => exact .done hbroken
  | _ =>
    have hbroken := fun token => h.breakOff (.noKey token)
    cases before <;> cases before' <;> exact .done (hbroken _)

theorem SameStage.step {stage stage' : Stage} (h : SameStage a b stage stage') (token : Token) :
    SameStep a b (stage.step token) (stage'.step token) := by
  cases h with
  | value h => exact h.value token
  | firstItem h =>
    by_cases hclose : token = .closeList
    · subst hclose
      exact h.complete (.list [] .closed)
    · rw [step_firstItem hclose, step_firstItem hclose]
      exact (SameStack.list [] h).value token
  | nextItem before h =>
    by_cases hclose : token = .closeList
    · subst hclose
      exact .done (h.breakOff (.list before.reverse .trailingComma))
    · rw [step_nextItem hclose, step_nextItem hclose]
      exact (SameStack.list before h).value token
  | afterItem before h =>
    cases token with
    | comma => exact .next (.nextItem before h)
    | closeList => exact h.complete (.list before.reverse .closed)
    | _ => exact .done (h.breakOff (.list before.reverse .noSeparator))
  | nextKey h => exact h.nextKey token
  | colon key h =>
    cases token with
    | colon => exact .next (.value (.member key h))
    | _ => exact .done ((SameStack.member key h).breakOff (.gap .noColon))
  | afterMember h =>
    cases token with
    | comma => exact .next (.nextKey h)
    | closeObject => exact h.complete
    | _ => exact .done (h.breakOff .noSeparator)

theorem SameObject.nextKey_atEnd {before before' : List (RawText × Tree)}
    {stack stack' : List Open} (h : SameObject a b before stack before' stack') :
    SameTree a b (Stage.nextKey before stack).atEnd (Stage.nextKey before' stack').atEnd := by
  have hbroken := h.breakOff .endedAfterComma
  cases h with
  | outermost before => cases before <;> exact hbroken
  | inner before around =>
    cases before with
    | nil => exact around.breakOff (.object [] .ended)
    | cons member before => exact hbroken

theorem SameStage.atEnd {stage stage' : Stage} (h : SameStage a b stage stage') :
    SameTree a b stage.atEnd stage'.atEnd := by
  cases h with
  | value h =>
    have hbroken := h.breakOff (.gap .ended)
    cases h <;> exact hbroken
  | firstItem h => exact h.breakOff (.list [] .ended)
  | nextItem before h => exact h.breakOff (.list before.reverse .endedAfterComma)
  | afterItem before h => exact h.breakOff (.list before.reverse .ended)
  | nextKey h => exact h.nextKey_atEnd
  | colon key h => exact (SameStack.member key h).breakOff (.gap .endedBeforeColon)
  | afterMember h => exact h.breakOff .ended

/-- Whatever tokens follow, only the first member of the outermost object differs. -/
theorem SameStage.assemble {stage stage' : Stage} (h : SameStage a b stage stage')
    (tokens : List Token) :
    SameTree a b (assemble stage tokens).1 (assemble stage' tokens).1 := by
  induction tokens generalizing stage stage' with
  | nil => exact h.atEnd
  | cons token rest ih =>
    have hstep := h.step token
    rw [Json.assemble, Json.assemble]
    generalize stage.step token = step at hstep
    generalize stage'.step token = step' at hstep
    cases hstep with
    | next hnext => exact ih hnext
    | done hdone => exact hdone

end EnclaveRegistry.Json
