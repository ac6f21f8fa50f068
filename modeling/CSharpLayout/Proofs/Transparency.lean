import CSharpLayout.Proofs.Traversal

/-! Stages that only look on. Where one writer can be seen as another at every event, it can be seen as the
other over a whole run; so recording spans changes neither the text of a tree nor the error that is reported
instead. -/

namespace CSharpLayout

/-- A view of one writer as another. Whatever event comes next, the view of what is reached is what the view
reaches. -/
structure Writer.Faithful {σ τ : Type} [Writer σ] [Writer τ] (view : σ → τ) : Prop where
  emit : ∀ writer event, view (Writer.emit writer event) = Writer.emit (view writer) event

def Spaced.mapInner {σ τ : Type} (view : σ → τ) (spaced : Spaced σ) : Spaced τ :=
  ⟨view spaced.inner, spaced.last⟩

namespace Writer.Faithful

variable {σ τ : Type} [Writer σ] [Writer τ] {view : σ → τ}

theorem emitAll (faithful : Faithful view) (writer : σ) (events : List Event) :
    view (Writer.emitAll writer events) = Writer.emitAll (view writer) events := by
  induction events generalizing writer with
  | nil => rfl
  | cons event rest ih => rw [emitAll_cons, emitAll_cons, ih, faithful.emit]

theorem printTo (faithful : Faithful view) (policy : Policy) (node : Node) (writer : σ) :
    (CSharpLayout.printTo policy node writer).map view = CSharpLayout.printTo policy node (view writer) := by
  rw [printTo_eq_map_events, printTo_eq_map_events]
  cases events policy node with
  | error error => rfl
  | ok found => exact congrArg Except.ok (faithful.emitAll writer found)

/-- Whether a space is needed does not depend on the stage behind. -/
theorem spaced (faithful : Faithful view) : Faithful (Spaced.mapInner view) where
  emit := by
    rintro ⟨inner, last⟩ event
    cases needed : last.needsSpace event with
    | false =>
        rw [Spaced.emit_inner_of_calm needed, Spaced.mapInner, Spaced.mapInner,
          Spaced.emit_inner_of_calm needed, faithful.emit]
    | true =>
        rw [Spaced.emit_inner_of_needed needed, Spaced.mapInner, Spaced.mapInner,
          Spaced.emit_inner_of_needed needed, faithful.emit, faithful.emit]

end Writer.Faithful

/-- A stage that records spans hands on every event once, and nothing else. -/
theorem Tracked.inner_faithful {σ : Type} [Writer σ] : Writer.Faithful (Tracked.inner (σ := σ)) where
  emit := emit_inner

/-- With spans or without, a tree has the same text, or printing it fails with the same error. -/
theorem printWithMap_text (policy : Policy) (tree : SyntaxTree) :
    (printWithMap policy tree).map Prod.fst = print policy tree := by
  have same : (printTo policy (.syntaxTree tree)
        ({ inner := { inner := .ofPolicy policy "" } } : Spaced (Tracked (Page String)))).map
          (Spaced.mapInner Tracked.inner) =
      printTo policy (.syntaxTree tree) ({ inner := .ofPolicy policy "" } : Spaced (Page String)) :=
    Tracked.inner_faithful.spaced.printTo policy (.syntaxTree tree) _
  simp only [printWithMap, print, printNode]
  rw [← same]
  cases printTo policy (.syntaxTree tree)
      ({ inner := { inner := .ofPolicy policy "" } } : Spaced (Tracked (Page String))) with
  | error error => rfl
  | ok printed =>
      change (do
        let text ← printed.inner.inner.finish
        pure (text, printed.inner.spans) : Except Error (String × List NodeSpan)).map Prod.fst =
          printed.inner.inner.finish
      cases printed.inner.inner.finish with
      | error error => rfl
      | ok text => rfl

end CSharpLayout
