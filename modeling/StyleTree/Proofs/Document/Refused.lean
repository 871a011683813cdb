import StyleTree.Proofs.Document.Tree

/-!
# Refused operations

An operation is refused before it changes anything. That goes for moving a node as well, although
the node is taken out of its old place by an edit that may be refused: in a sound tree that edit is
carried out whenever the node may be put in.
-/

namespace StyleTree

namespace Edit

variable {d : Document}

/-- The outcome of putting `n` in below `p`: all that can be wrong is found by the check, and what
passes it is put in, a node with a parent after it was taken out from below that one. -/
def InsertsOrRefuses (d : Document) (p n : NodeId) (before : Option NodeId) : Prop :=
  match insertionError? d.page.tree p n before, d.page.tree.parent? n with
  | some e, _ => insertBefore p n before d = .error e d
  | none, none => insertBefore p n before d = .ok () (d.attach p n before)
  | none, some old =>
    let reference := if before = some n then d.page.tree.nextSibling? n else before
    removeChild old n d = .ok () (d.detach old n) ∧
      insertBefore p n before d = .ok () ((d.detach old n).attach p n reference)

theorem insertsOrRefuses (h : d.page.tree.Sound) (p n : NodeId) (before : Option NodeId) :
    InsertsOrRefuses d p n before := by
  unfold InsertsOrRefuses
  split
  next e hcheck => exact insertBefore_refused hcheck
  next hcheck hroot => exact insertBefore_root hcheck hroot
  next old hcheck hold => exact ⟨removeChild_eq h hold, insertBefore_move h hcheck hold⟩

end Edit

namespace Document

/-- After any operations, an operation that is refused leaves the document exactly as it was, and
putting in a node is refused by the check alone: once a node was taken out it is put in. -/
theorem refused_run (doctype : Option String) (o : Options) (os : List Operation) :
    let d := (create doctype o).run os
    (∀ (op : Operation) (e : DocumentError) (d' : Document), op.edit d = .error e d' → d' = d) ∧
      ∀ p n before, Edit.InsertsOrRefuses d p n before := by
  intro d
  have hsound : d.page.tree.Sound := (run_valid doctype o os).toSound
  refine ⟨fun op e d' hrefused => ?_, Edit.insertsOrRefuses hsound⟩
  exact (leads_course hsound op).refused hrefused

/-- An element is not put in below its own child. -/
theorem refused_run_below_itself :
    let d := (create none .default).run [.createElement "div", .createElement "p",
      .insertBefore Tree.root 1 none, .insertBefore 1 2 none]
    let op := Operation.insertBefore 2 1 none
    ∃ d', op.edit d = .error .hierarchy d' ∧ d' = d := by
  intro d op
  have hrefused : op.edit d = .error .hierarchy d := by
    have hcheck : Edit.insertionError? d.page.tree 2 1 none = some .hierarchy := by decide +kernel
    show Edit.silent (Edit.insertBefore 2 1 none) d = _
    simp [Edit.silent, discard, Functor.discard, Functor.mapConst, EStateM.map, bind,
      EStateM.bind, Edit.insertBefore_refused hcheck]
  exact ⟨d, hrefused, (refused_run none .default _).1 op .hierarchy d hrefused⟩

end Document

end StyleTree
