import StyleTree.Proofs.Document.Elements
import StyleTree.Proofs.Style.Elements
import StyleTree.Proofs.Tree.Preorder
import StyleTree.Selector.Matching

/-!
# States over the course of a document

What states an element is in is decided by the operations that were carried out on it: the last one
that put it into a state or took it out decides, wherever the element was moved in between. Where
the focus is, is a question of the tree as it is.
-/

namespace StyleTree

/-! ## States as sets -/

namespace ElementState

variable {s : ElementState} {flags : List StateFlag} {value : Bool}

theorem has_set (s : ElementState) (flags : List StateFlag) (value : Bool) (f : StateFlag) :
    (s.set flags value).has f = if flags.contains f then value else s.has f := by
  have hall : f ∈ StateFlag.all := by cases f <;> decide
  rw [Bool.eq_iff_iff, has, List.contains_iff_mem, set, List.mem_filter]
  exact ⟨fun h => h.2, fun h => ⟨hall, h⟩⟩

/-- The flags are listed in their order, each once. -/
def IsListed (s : ElementState) : Prop :=
  s.flags = StateFlag.all.filter s.has

theorem isListed_empty : IsListed .empty :=
  rfl

theorem isListed_set (s : ElementState) (flags : List StateFlag) (value : Bool) :
    (s.set flags value).IsListed :=
  List.filter_congr fun f _ => (has_set s flags value f).symm

/-- Listed sets are equal if they have the same flags. -/
theorem IsListed.ext {t : ElementState} (hs : s.IsListed) (ht : t.IsListed)
    (h : ∀ f, s.has f = t.has f) : s = t := by
  have hflags : s.flags = t.flags := by
    rw [hs, ht]
    exact List.filter_congr fun f _ => h f
  cases s
  cases t
  exact congrArg mk hflags

end ElementState

/-! ## What operations say of states -/

namespace Operation

/-- Whether the operation puts its element into the state, or takes it out; none if it does
neither. -/
def puts? (f : StateFlag) : Operation → Option Bool
  | setState _ flags value => if f ∈ flags then some value else none
  | clearStates _ => some false
  | _ => none

/-- As `puts?`, for a custom state. -/
def putsCustom? (name : String) : Operation → Option Bool
  | addCustomState _ added => if added = name then some true else none
  | removeCustomState _ removed => if removed = name then some false else none
  | clearStates _ => some false
  | _ => none

/-- The operation changes single states. -/
def isOfSingleStates : Operation → Bool
  | setState .. | addCustomState .. | removeCustomState .. => true
  | _ => false

/-- What has to do with attributes alone keeps the states. -/
theorem states_change (o : Operation) (ho : o.isOfStates = false) (html : Bool) (e : Element) :
    (o.change html e).state = e.state ∧ (o.change html e).customStates = e.customStates := by
  cases o with
  | setState | addCustomState | removeCustomState | clearStates => cases ho
  | setAttributeNs n ns qualified value =>
    cases hname : Name.ofQualified (ns.getD Namespace.none) qualified with
    | error => simp only [change, hname, id, and_self]
    | ok name =>
      simp only [change, hname]
      exact ⟨rfl, rfl⟩
  | _ => exact ⟨rfl, rfl⟩

theorem has_change (o : Operation) (f : StateFlag) (html : Bool) (e : Element) :
    (o.change html e).state.has f = (o.puts? f).getD (e.state.has f) := by
  cases o with
  | setState n flags value =>
    refine (e.state.has_set flags value f).trans ?_
    by_cases hf : f ∈ flags <;> simp [puts?, hf]
  | setAttributeNs n ns qualified value => rw [(states_change _ rfl html e).1]; rfl
  | _ => rfl

theorem contains_change (o : Operation) (name : String) (html : Bool) (e : Element) :
    (o.change html e).customStates.contains name =
      (o.putsCustom? name).getD (e.customStates.contains name) := by
  cases o with
  | addCustomState n added =>
    show List.contains (if _ then _ else _) name = _
    by_cases hname : added = name
    · subst hname
      split
      next hmem => simpa [putsCustom?] using hmem
      next => simp [putsCustom?]
    · split <;> simp [putsCustom?, hname, Ne.symm hname]
  | removeCustomState n removed =>
    show List.contains (List.filter _ _) name = _
    by_cases hname : removed = name
    · simp [putsCustom?, hname]
    · simp [putsCustom?, hname, Ne.symm hname]
  | setAttributeNs n ns qualified value => rw [(states_change _ rfl html e).2]; rfl
  | _ => rfl

/-- What changes none of the states changes nothing. -/
theorem change_eq_self {o : Operation} (ho : o.isOfSingleStates = true) (html : Bool) {e : Element}
    (he : e.state.IsListed) (hflags : ∀ f, (o.change html e).state.has f = e.state.has f)
    (hnames : ∀ name, (o.change html e).customStates.contains name = e.customStates.contains name) :
    o.change html e = e := by
  cases o with
  | setState n flags value =>
    have hstate := (ElementState.isListed_set e.state flags value).ext he hflags
    show { e with state := e.state.set flags value } = e
    rw [hstate]
  | addCustomState n name =>
    have hname := (contains_change (addCustomState n name) name html e).symm.trans (hnames name)
    simp only [putsCustom?, if_true, Option.getD_some] at hname
    show Element.addState name e = e
    rw [Element.addState, if_pos hname.symm]
  | removeCustomState n name =>
    have hname := (contains_change (removeCustomState n name) name html e).symm.trans (hnames name)
    simp only [putsCustom?, if_true, Option.getD_some] at hname
    show Element.removeState name e = e
    rw [Element.removeState, List.filter_eq_self.mpr]
    intro other hmem
    rw [bne_iff_ne]
    rintro rfl
    simp [hmem] at hname
  | _ => cases ho

end Operation

/-! ## States after a run -/

namespace Page

/-- The element is in the custom state. -/
def hasCustomState (p : Page) (n : NodeId) (name : String) : Bool :=
  (PseudoClass.customState name).holds p n

/-- All elements are in the same states. -/
def SameStates (p q : Page) : Prop :=
  ∀ n, (∀ f, q.hasState n f = p.hasState n f) ∧
    ∀ name, q.hasCustomState n name = p.hasCustomState n name

end Page

namespace Document

variable {d : Document} {o : Operation} {n : NodeId} {e : Element}

/-- The operations of the list that are carried out on the element, in order. -/
def carriedOutOn (d : Document) (n : NodeId) (os : List Operation) : List Operation :=
  (d.carriedOut os).filter (·.target? == some n)

theorem carriedOut_append (d : Document) (os os' : List Operation) :
    d.carriedOut (os ++ os') = d.carriedOut os ++ (d.run os).carriedOut os' := by
  induction os generalizing d with
  | nil => rfl
  | cons o os ih =>
    rw [List.cons_append, carriedOut, ih, carriedOut, List.append_assoc]
    rfl

theorem carriedOutOn_append_singleton (d : Document) (n : NodeId) (os : List Operation)
    (o : Operation) : d.carriedOutOn n (os ++ [o]) = d.carriedOutOn n os ++
      if (d.run os).accepts o = true ∧ o.target? = some n then [o] else [] := by
  rw [carriedOutOn, carriedOut_append, List.filter_append, carriedOut, carriedOut,
    List.append_nil, carriedOutOn]
  congr 1
  cases (d.run os).accepts o <;> by_cases hn : o.target? = some n <;> simp [hn]

/-- What new elements do not have, and what an operation gives to its element or takes from it as
`effect` tells, an element has if the last operation with an effect gave it. -/
theorem any_run (has : Element → Bool) (effect : Operation → Option Bool)
    (hmade : ∀ name, has (.ofName name) = false)
    (hchange : ∀ o html e, has (Operation.change html o e) = (effect o).getD (has e))
    (doctype : Option String) (options : Options) (os : List Operation) (n : NodeId) :
    let d := create doctype options
    ((d.run os).page.element? n).any has =
      ((d.carriedOutOn n os).filterMap effect).getLast?.getD false := by
  intro d
  induction os using List.reverseRecOn with
  | nil =>
    show (d.page.element? n).any has = _
    rw [element?_create]
    rfl
  | append_singleton os o ih =>
    have hsound : (d.run os).page.tree.Sound := (run_valid doctype options os).toSound
    have hrun : d.run (os ++ [o]) = (d.run os).perform o := List.foldl_append
    rw [hrun, carriedOutOn_append_singleton, List.filterMap_append]
    cases hold : (d.run os).page.element? n with
    | none =>
      have hother : ¬((d.run os).accepts o = true ∧ o.target? = some n) := by
        rintro ⟨ho, hn⟩
        obtain ⟨e, he, -⟩ := element?_perform_carried hsound ho hn
        cases hold.symm.trans he
      rw [hold, Option.any_none] at ih
      rw [if_neg hother, List.filterMap_nil, List.append_nil, ← ih]
      rcases element?_perform_made (o := o) hsound hold with hnew | ⟨name, hnew⟩
      · rw [hnew, Option.any_none]
      · rw [hnew, Option.any_some, hmade]
    | some e =>
      rw [hold, Option.any_some] at ih
      rw [element?_perform hsound hold, Option.any_some]
      split
      · rw [hchange, ih]
        cases heffect : effect o <;> simp [heffect]
      · rw [List.filterMap_nil, List.append_nil, ih]

theorem hasState_run (doctype : Option String) (options : Options) (os : List Operation)
    (n : NodeId) (f : StateFlag) :
    let d := create doctype options
    (d.run os).page.hasState n f = true ↔
      ((d.carriedOutOn n os).filterMap (·.puts? f)).getLast? = some true := by
  intro d
  have hany := any_run (·.state.has f) (·.puts? f) (fun _ => rfl)
    (fun o html e => o.has_change f html e) doctype options os n
  refine (Bool.eq_iff_iff.mp hany).trans (Option.getD_eq_iff.trans ?_)
  simp only [Bool.false_eq_true, and_false, or_false, d]

theorem hasCustomState_run (doctype : Option String) (options : Options) (os : List Operation)
    (n : NodeId) (name : String) :
    let d := create doctype options
    (d.run os).page.hasCustomState n name = true ↔
      ((d.carriedOutOn n os).filterMap (·.putsCustom? name)).getLast? = some true := by
  intro d
  have hany := any_run (·.customStates.contains name) (·.putsCustom? name) (fun _ => rfl)
    (fun o html e => o.contains_change name html e) doctype options os n
  refine (Bool.eq_iff_iff.mp hany).trans (Option.getD_eq_iff.trans ?_)
  simp only [Bool.false_eq_true, and_false, or_false, d]

theorem run_isListed (doctype : Option String) (options : Options) (os : List Operation)
    (he : ((create doctype options).run os).page.element? n = some e) : e.state.IsListed := by
  refine run_element_induction (P := fun e => e.state.IsListed)
    (fun _ => ElementState.isListed_empty) (fun o html e he => ?_) doctype options os he
  cases o with
  | setState n flags value => exact ElementState.isListed_set e.state flags value
  | clearStates n => exact ElementState.isListed_empty
  | setAttributeNs => rwa [(Operation.states_change _ rfl html e).1]
  | _ => exact he

/-! ## The focus -/

/-- The focus is within an element if it is on one of the nodes that the traversal gives. -/
theorem hasFocusWithin_iff {p : Page} (h : p.tree.Sound) (hn : p.isElement n = true) :
    p.hasFocusWithin n = true ↔ ∃ m ∈ p.tree.preorder n, p.hasState m .focus = true := by
  have hhas := Page.has_of_isElement hn
  rw [Page.hasFocusWithin, List.any_eq_true]
  constructor
  · rintro ⟨m, -, hm⟩
    obtain ⟨hfocus, habove⟩ := (Bool.and_eq_true _ _).mp hm
    exact ⟨m, (h.isInclusiveAncestor_iff_mem hhas).mp habove, hfocus⟩
  · rintro ⟨m, hm, hfocus⟩
    refine ⟨m, List.mem_range.mpr ?_, ?_⟩
    · simpa [Tree.has] using h.has_of_mem_preorder hhas hm
    · rw [hfocus, (h.isInclusiveAncestor_iff_mem hhas).mpr hm, Bool.and_self]

/-! ## Serials -/

theorem putStates_run (old new : Element) : Edit.putStates n old new d =
    .ok () (if new = old then d else d.withStates n new) := by
  unfold Edit.putStates
  by_cases h : new = old
  · rw [if_neg (not_not.mpr h), if_pos h]
    rfl
  · rw [if_pos h, if_neg h]
    rfl

theorem edit_of_isOfSingleStates (ho : o.isOfSingleStates = true) (hn : o.target? = some n)
    (he : d.page.element? n = some e) (html : Bool) : o.edit d =
      .ok none (if o.change html e = e then d else d.withStates n (o.change html e)) := by
  have hrun (new : Element → Element) :
      (Edit.element n >>= fun e => Edit.putStates n e (new e)) d =
        .ok () (if new e = e then d else d.withStates n (new e)) := by
    rw [Edit.bind_run (Edit.element_run (Tree.data?_of_element? he)), putStates_run]
  cases o with
  | setState m flags value =>
    obtain rfl := Option.some.inj hn
    exact Edit.silent_run (hrun fun e => { e with state := e.state.set flags value })
  | addCustomState m name =>
    obtain rfl := Option.some.inj hn
    exact Edit.silent_run (hrun (.addState name))
  | removeCustomState m name =>
    obtain rfl := Option.some.inj hn
    exact Edit.silent_run (hrun (.removeState name))
  | _ => cases ho

theorem exists_target (ho : o.isOfSingleStates = true) : ∃ n, o.target? = some n := by
  cases o with
  | setState n | addCustomState n | removeCustomState n => exact ⟨n, rfl⟩
  | _ => cases ho

theorem sameStates_refl (p : Page) : p.SameStates p :=
  fun _ => ⟨fun _ => rfl, fun _ => rfl⟩

/-- An operation on single states makes the styles stale if it changes the states of an element, and
only then. -/
theorem serial_perform_iff (h : d.page.tree.Sound)
    (hlisted : ∀ n e, d.page.element? n = some e → e.state.IsListed)
    (ho : o.isOfSingleStates = true) :
    (d.perform o).serial ≠ d.serial ↔ ¬d.page.SameStates (d.perform o).page := by
  have hnothing (hsame : d.perform o = d) :
      (d.perform o).serial ≠ d.serial ↔ ¬d.page.SameStates (d.perform o).page := by
    rw [hsame]
    exact iff_of_false (fun hne => hne rfl) (not_not.mpr (sameStates_refl d.page))
  obtain ⟨n, hn⟩ := exists_target ho
  cases haccepts : d.accepts o with
  | false => exact hnothing (perform_of_refused h haccepts)
  | true =>
    obtain ⟨e, he, hnew⟩ := element?_perform_carried h haccepts hn
    let html := d.page.isHtmlElement n
    have hrun := perform_of_run (edit_of_isOfSingleStates ho hn he html)
    by_cases hchange : o.change html e = e
    · exact hnothing (hrun.trans (if_pos hchange))
    · rw [if_neg hchange] at hrun
      have hserial : (d.perform o).serial = d.serial + 1 := by
        rw [hrun]
        rfl
      refine iff_of_true (by omega) fun hsame => hchange ?_
      obtain ⟨hflags, hnames⟩ := hsame n
      refine o.change_eq_self ho html (hlisted n e he) (fun f => ?_) fun name => ?_
      · have hf := hflags f
        rwa [Page.hasState, Page.hasState, hnew, he, Option.any_some, Option.any_some] at hf
      · have hname := hnames name
        change Option.any _ _ = Option.any _ _ at hname
        rwa [hnew, he, Option.any_some, Option.any_some] at hname

/-! ## Runs -/

/-- After any operations, an element is in a state exactly if the last operation on it that was
carried out and put it into the state or took it out put it there; likewise for custom states. The
focus is within an element exactly if it is on a node that the traversal of the element gives. And
an operation on single states changes the serial exactly if it changes the states of an element. -/
theorem states_run (doctype : Option String) (options : Options) (os : List Operation) :
    let created := create doctype options
    let d := created.run os
    (∀ n f, d.page.hasState n f = true ↔
      ((created.carriedOutOn n os).filterMap (·.puts? f)).getLast? = some true) ∧
      (∀ n name, d.page.hasCustomState n name = true ↔
        ((created.carriedOutOn n os).filterMap (·.putsCustom? name)).getLast? = some true) ∧
      (∀ n, d.page.isElement n = true → (d.page.hasFocusWithin n = true ↔
        ∃ m ∈ d.page.tree.preorder n, d.page.hasState m .focus = true)) ∧
      ∀ o : Operation, o.isOfSingleStates = true →
        ((d.perform o).serial ≠ d.serial ↔ ¬d.page.SameStates (d.perform o).page) := by
  intro created d
  have hsound : d.page.tree.Sound := (run_valid doctype options os).toSound
  refine ⟨hasState_run doctype options os, hasCustomState_run doctype options os, ?_, ?_⟩
  · exact fun n hn => hasFocusWithin_iff hsound hn
  · exact fun o ho => serial_perform_iff hsound (fun n e => run_isListed doctype options os) ho

/-- The focus goes with a paragraph that is moved from one element to another one. -/
theorem states_run_moved :
    let os : List Operation := [.createElement "div", .createElement "div", .createElement "p",
      .setState 3 [.focus, .hover] true, .setState 3 [.hover] false, .addCustomState 3 "open",
      .insertBefore 1 3 none, .insertBefore 2 3 none]
    let d := (create none .default).run os
    let o := Operation.setState 3 [.hover, .focus] true
    d.page.hasState 3 .focus = true ∧ d.page.hasState 3 .hover = false ∧
      d.page.hasCustomState 3 "open" = true ∧
      d.page.isElement 1 = true ∧ d.page.hasFocusWithin 1 = false ∧
      d.page.isElement 2 = true ∧ d.page.hasFocusWithin 2 = true ∧
      o.isOfSingleStates = true ∧ (d.perform o).serial ≠ d.serial := by
  intro os d o
  obtain ⟨hstate, hcustom, hfocus, hserial⟩ := states_run none .default os
  have hfocused : d.page.hasState 3 .focus = true := (hstate 3 .focus).mpr (by decide +kernel)
  have hhover : ¬d.page.hasState 3 .hover = true := mt (hstate 3 .hover).mp (by decide +kernel)
  have helements : d.page.isElement 1 = true ∧ d.page.isElement 2 = true := by decide +kernel
  have hempty : ¬d.page.hasFocusWithin 1 = true := by
    refine mt (hfocus 1 helements.1).mp ?_
    decide +kernel
  have hwithin : d.page.hasFocusWithin 2 = true :=
    (hfocus 2 helements.2).mpr ⟨3, by decide +kernel, hfocused⟩
  refine ⟨hfocused, Bool.eq_false_iff.mpr hhover, (hcustom 3 "open").mpr (by decide +kernel),
    helements.1, Bool.eq_false_iff.mpr hempty, helements.2, hwithin, rfl, ?_⟩
  refine (hserial o rfl).mpr fun hsame => hhover ?_
  rw [← (hsame 3).1 .hover]
  decide +kernel

end Document

end StyleTree
