import Mathlib.Data.List.Perm.Subperm
import EntityMap.Proofs.Saving.Cascade
import EntityMap.Proofs.Saving.Induction
import EntityMap.Proofs.Validation.Violations

/-!
# Validation before writing

A saving validates just what it then inserts, and nothing is inserted before all of it is valid
(`save_validates_cascade`).

Validating follows the joins as inserting does (`validateJoins_ends`), only that it stops at the
first entity that is not valid. It always stops : a path without circles is no longer than there
are entities (`Above.length_le`).
-/

namespace EntityMap

open Relation

variable {δ : Type} [Database δ] {x : Library} {rs : Records} {root n m : Node} {w w' : World δ}
  {I : δ → Prop}

/-! ## Paths -/

/-- Entities that lead to the node along the cascade, each once. -/
structure Above (x : Library) (rs : Records) (root : Node) (above : List Value) (n : Node) :
    Prop where
  nodup : above.Nodup
  leads : ∀ u ∈ above, ∃ k, Cascaded x rs root k ∧ k.object = u ∧ TransGen (Cascades x rs) k n

/-- A path has no more nodes than there are records. -/
theorem Above.length_le {above : List Value} (hwf : EntityGraph x rs root)
    (hroot : rs.Has root.object) (h : Above x rs root above n) : above.length ≤ rs.length := by
  have hsub : above ⊆ (List.range rs.length).map Value.entity := by
    intro u hu
    obtain ⟨k, hk, rfl, -⟩ := h.leads u hu
    obtain ⟨ref, hobject, hlt⟩ := (hwf.has hroot hk).entity
    rw [hobject]
    exact List.mem_map_of_mem (List.mem_range.mpr hlt)
  simpa using (List.subperm_of_subset h.nodup hsub).length_le

/-- A path is made longer by a step. -/
theorem Above.cons {above : List Value} (hwf : EntityGraph x rs root) (hn : Cascaded x rs root n)
    (h : Above x rs root above n) (hnm : Cascades x rs n m) :
    Above x rs root (n.object :: above) m where
  nodup := by
    refine List.nodup_cons.mpr ⟨fun hmem => ?_, h.nodup⟩
    obtain ⟨k, hk, heq, hkn⟩ := h.leads _ hmem
    exact hwf.acyclic k n hk (holds_of_cascades hkn) heq.symm
  leads u hu := by
    rcases List.mem_cons.mp hu with rfl | hu
    · exact ⟨n, hn, rfl, .single hnm⟩
    · obtain ⟨k, hk, heq, hkn⟩ := h.leads u hu
      exact ⟨k, hk, heq, hkn.tail hnm⟩

/-! ## Validating along joins -/

/-- Validates entities one after the other. -/
def validateEach (x : Library) (nodes : List Node) : Op δ Unit :=
  nodes.forM fun n => validate x n.entity n.object

theorem validateEach_append {w₁ : World δ} {ns ms : List Node}
    (h : validateEach x ns w = (.ok (), w₁)) (h' : validateEach x ms w₁ = (.ok (), w')) :
    validateEach x (ns ++ ms) w = (.ok (), w') := by
  show (forM (ns ++ ms) fun n => validate x n.entity n.object) w = _
  rw [List.forM_append]
  exact Op.bind_eq_ok.mpr ⟨(), w₁, h, h'⟩

theorem validateEach_singleton (h : validate x n.entity n.object w = (.ok (), w')) :
    validateEach x [n] w = (.ok (), w') :=
  Op.bind_eq_ok.mpr ⟨(), w', h, rfl⟩

theorem validateEach_reads (hI : ReadInvariant I) (w₀ : World δ) (nodes : List Node) :
    (validateEach x nodes : Op δ Unit).Keeps (Reads I w₀) := fun _ hw =>
  Op.Ends.forM (fun _ _ w hw => validate_reads hI w₀ w hw) hw

/-- Where an entity holds another, the class that it is held by can be described. -/
def Resolvable (x : Library) (rs : Records) (n : Node) : Prop :=
  ∀ j ∈ n.entity.joins, (rs.get n.object j.field).isNull = false →
    rs.isPlaceholder (rs.get n.object j.field) = false →
    ∃ e, x.catalogue.describeRelated j = .ok e

/-- Validating what satisfies `P` has failed : one of it is not valid, or what holds it, of which
`Q` is true, is not resolvable. -/
def Stopped (x : Library) (I : δ → Prop) (P Q : Node → Prop) (w : World δ) (f : Failure)
    (w' : World δ) : Prop :=
  (∃ m w₁, P m ∧ Reads I w w₁ ∧ validate x m.entity m.object w₁ = (.error f, w'))
    ∨ ∃ k, Q k ∧ ¬Resolvable x w.records k

/-- The part of validating related entities that one join has. -/
def validateJoin (x : Library) (fuel : Nat) (n : Node) (j : Join) : Op δ Unit := do
  let rs ← Op.records
  let related := rs.get n.object j.field
  if related.isNull || rs.isPlaceholder related then return ()
  let relatedEntity ← Op.describing (x.catalogue.describeRelated j)
  if keyUnset rs relatedEntity related then
    validateAll x fuel relatedEntity related

theorem validateRelated_succ (fuel : Nat) (n : Node) :
    (validateRelated x (fuel + 1) n.entity n.object : Op δ Unit)
      = n.entity.joins.forM (validateJoin x fuel n) :=
  rfl

/-- Through one join an entity is reached. -/
def Through (x : Library) (rs : Records) (n : Node) (j : Join) (m : Node) : Prop :=
  ∃ k, HoldsBy x rs n j k ∧ Unsaved rs k ∧ ReflTransGen (Cascades x rs) k m

/-- What an entity cascades to is reached through its joins. -/
theorem transGen_cascades_iff :
    TransGen (Cascades x rs) n m ↔ ∃ j ∈ n.entity.joins, Through x rs n j m := by
  rw [TransGen.head'_iff]
  constructor
  · rintro ⟨k, ⟨⟨j, hj, hk⟩, hunsaved⟩, hm⟩
    exact ⟨j, hj, k, hk, hunsaved, hm⟩
  · rintro ⟨j, hj, k, hk, hunsaved, hm⟩
    exact ⟨k, ⟨⟨j, hj, hk⟩, hunsaved⟩, hm⟩

/-- What stops a part stops the whole. -/
theorem Stopped.of_reads {P Q P' Q' : Node → Prop} {w₁ : World δ} {f : Failure}
    (h : Stopped x I P Q w₁ f w') (hreads : Reads I w w₁) (hP : ∀ m, P m → P' m)
    (hQ : ∀ k, Q k → Q' k) : Stopped x I P' Q' w f w' := by
  rcases h with ⟨m, w₂, hm, hreads', hfails⟩ | ⟨k, hk, hresolvable⟩
  · exact .inl ⟨m, w₂, hP m hm, hreads.trans hreads', hfails⟩
  · exact .inr ⟨k, hQ k hk, hreads.records ▸ hresolvable⟩

/-- What validating an entity with so much fuel does : it validates the entity and what it cascades
to, or is stopped there. -/
def Validates (x : Library) (rs : Records) (root : Node) (I : δ → Prop) (fuel : Nat) : Prop :=
  ∀ (n : Node) (above : List Value) (w : World δ), Cascaded x rs root n →
    Above x rs root above n → rs.length < above.length + fuel → w.records = rs →
    (validateAll x fuel n.entity n.object).Ends w
      (fun _ w' => ∃ nodes, validateEach x nodes w = (.ok (), w')
        ∧ ∀ m, m ∈ nodes ↔ ReflTransGen (Cascades x rs) n m)
      (Stopped x I (ReflTransGen (Cascades x rs) n) (ReflTransGen (Cascades x rs) n) w)

section

variable {above : List Value} {fuel : Nat} (ih : Validates x rs root I fuel)
  (hwf : EntityGraph x rs root) (hn : Cascaded x rs root n) (habove : Above x rs root above n)
  (hfuel : rs.length < above.length + (fuel + 1))
include ih hwf hn habove hfuel

/-- Validating through a join. -/
theorem validateJoin_ends (hw : w.records = rs) {j : Join} (hj : j ∈ n.entity.joins) :
    (validateJoin x fuel n j).Ends w
      (fun _ w' => ∃ nodes, validateEach x nodes w = (.ok (), w')
        ∧ ∀ m, m ∈ nodes ↔ Through x rs n j m)
      (Stopped x I (TransGen (Cascades x rs) n) (ReflTransGen (Cascades x rs) n) w) := by
  have hnothing : (∀ m, ¬Through x rs n j m) → (pure () : Op δ Unit).Ends w
      (fun _ w' => ∃ nodes, validateEach x nodes w = (.ok (), w')
        ∧ ∀ m, m ∈ nodes ↔ Through x rs n j m)
      (Stopped x I (TransGen (Cascades x rs) n) (ReflTransGen (Cascades x rs) n) w) := fun h =>
    Op.Ends.pure ⟨[], rfl, fun m => ⟨by simp, fun hm => absurd hm (h m)⟩⟩
  refine Op.Ends.records_bind ?_
  rw [hw]
  dsimp only
  split
  · next hskipped =>
    refine hnothing ?_
    rintro m ⟨k, ⟨hk, hpresent, -⟩, ⟨hplaceholder, -⟩, -⟩
    rw [hk, hpresent, hplaceholder] at hskipped
    simp at hskipped
  · next htaken =>
    simp only [Bool.or_eq_true, not_or, Bool.not_eq_true] at htaken
    obtain ⟨hpresent, hplaceholder⟩ := htaken
    refine Op.Ends.describing_bind (fun e he => ?_) fun f hf => ?_
    · have hk : HoldsBy x rs n j ⟨e, rs.get n.object j.field⟩ := ⟨rfl, hpresent, he⟩
      split
      · next hunset =>
        have hcascades : Cascades x rs n ⟨e, rs.get n.object j.field⟩ :=
          ⟨⟨j, hj, hk⟩, hplaceholder, hunset⟩
        refine (ih _ (n.object :: above) w (hn.tail hcascades) (habove.cons hwf hn hcascades)
          (by rw [List.length_cons]; omega) hw).mono ?_ ?_
        · rintro _ w' ⟨nodes, hnodes, hmem⟩
          refine ⟨nodes, hnodes, fun m => (hmem m).trans ⟨fun hm => ?_, ?_⟩⟩
          · exact ⟨_, hk, hcascades.2, hm⟩
          · rintro ⟨k, hk', -, hm⟩
            cases hk.unique hk'
            exact hm
        · intro f w' hstopped
          exact hstopped.of_reads (Adds.refl _ _ w) (fun m hm => TransGen.head' hcascades hm)
            fun k hkm => ReflTransGen.head hcascades hkm
      · next hset =>
        refine hnothing ?_
        rintro m ⟨k, hk', hunsaved, -⟩
        cases hk.unique hk'
        exact hset hunsaved.2
    · refine .inr ⟨n, .refl, fun hresolvable => ?_⟩
      rw [hw] at hresolvable
      obtain ⟨e, he⟩ := hresolvable j hj hpresent hplaceholder
      simp [he] at hf

/-- Validating through joins, one after the other. -/
theorem validateJoins_ends (hI : ReadInvariant I) (js : List Join)
    (hjs : ∀ j ∈ js, j ∈ n.entity.joins) (hw : w.records = rs) :
    (js.forM (validateJoin x fuel n)).Ends w
      (fun _ w' => ∃ nodes, validateEach x nodes w = (.ok (), w')
        ∧ ∀ m, m ∈ nodes ↔ ∃ j ∈ js, Through x rs n j m)
      (Stopped x I (TransGen (Cascades x rs) n) (ReflTransGen (Cascades x rs) n) w) := by
  induction js generalizing w with
  | nil => exact Op.Ends.pure ⟨[], rfl, by simp⟩
  | cons j js ihjs =>
    refine (validateJoin_ends ih hwf hn habove hfuel hw (hjs j List.mem_cons_self)).bind ?_
    rintro _ w₁ ⟨nodes, hnodes, hmem⟩
    have hreads : Reads I w w₁ := (validateEach_reads hI w nodes w (Adds.refl _ _ w)).1 _ _ hnodes
    refine (ihjs (fun j' hj' => hjs j' (List.mem_cons_of_mem _ hj'))
      (hreads.records.trans hw)).mono ?_ ?_
    · rintro _ w' ⟨nodes', hnodes', hmem'⟩
      refine ⟨nodes ++ nodes', validateEach_append hnodes hnodes', fun m => ?_⟩
      rw [List.mem_append, hmem, hmem', List.exists_mem_cons_iff]
    · exact fun f w' hstopped => hstopped.of_reads hreads (fun _ h => h) fun _ h => h

end

/-- Validating an entity and what it cascades to, in that order, as long as there is fuel for the
longest path. -/
theorem validateAll_validates (hwf : EntityGraph x rs root) (hroot : rs.Has root.object)
    (hI : ReadInvariant I) (fuel : Nat) : Validates x rs root I fuel := by
  induction fuel with
  | zero =>
    intro n above w _ habove hfuel _
    have hle := habove.length_le hwf hroot
    omega
  | succ fuel ih =>
    intro n above w hn habove hfuel hw
    rw [validateAll, validateRelated_succ]
    refine ((validateJoins_ends ih hwf hn habove hfuel hI n.entity.joins (fun _ h => h) hw).mono
      (fun _ _ h => h) ?_).bind ?_
    · exact fun f w' hstopped => hstopped.of_reads (Adds.refl _ _ w)
        (fun _ h => h.to_reflTransGen) fun _ h => h
    · rintro _ w₁ ⟨nodes, hnodes, hmem⟩
      have hreads : Reads I w w₁ := (validateEach_reads hI w nodes w (Adds.refl _ _ w)).1 _ _ hnodes
      refine ⟨fun _ w' h => ⟨nodes ++ [n], validateEach_append hnodes (validateEach_singleton h),
        fun m => ?_⟩, fun f w' h => .inl ⟨n, w₁, .refl, hreads, h⟩⟩
      rw [List.mem_append, List.mem_singleton, hmem, ← transGen_cascades_iff,
        reflTransGen_iff_eq_or_transGen, or_comm]

/-! ## A whole saving -/

/-- Entities that have been validated violate nothing. -/
theorem validateEach_valid {taken : Lookup} {w₀ : World δ} (hcontent : Content w₀.records I taken)
    (hstate : I w₀.database) {nodes : List Node} (hobjects : ∀ m ∈ nodes, m.object.isNull = false)
    (hw : Reads I w₀ w) (h : validateEach x nodes w = (.ok (), w')) :
    ∀ m ∈ nodes, ∀ viol, ¬Violates taken x w₀.records m viol := by
  induction nodes generalizing w with
  | nil => simp
  | cons n nodes ih =>
    obtain ⟨_, w₁, hn, hnodes⟩ := Op.bind_eq_ok.mp h
    have hw₁ : Reads I w₀ w₁ := (validate_reads hcontent.toReadInvariant w₀ w hw).1 _ _ hn
    have hvalid := (validate_ends hcontent hstate hw (hobjects n List.mem_cons_self)).1 _ _ hn
    rw [List.forall_mem_cons]
    exact ⟨hvalid, ih (fun m hm => hobjects m (List.mem_cons_of_mem _ hm)) hw₁ hnodes⟩

/-- The second stage of a saving has validated the root and what it cascades to. -/
theorem Validated.exists_nodes {w₁ : World δ} (hwf : EntityGraph x w.records root)
    (hroot : w.records.Has root.object)
    (h : Validated x true root.entity root.object w w₁) :
    ∃ nodes, validateEach x nodes w = (.ok (), w₁)
      ∧ ∀ m, m ∈ nodes ↔ Cascaded x w.records root m :=
  (validateAll_validates hwf hroot readInvariant_true (relationDepth w.records) root [] w .refl
    ⟨List.nodup_nil, by simp⟩ (by simp [relationDepth]) rfl).1 _ _ h

/-- What writing runs. -/
def Writing (w w' : World δ) : Prop :=
  ∃ l, w'.events = w.events ++ l ∧ ∀ ev ∈ l, ev.statement? = none ∨ ev.isInsertion = true

omit [Database δ] in
/-- One insertion more. -/
theorem Writing.insertion {w₁ : World δ} (h : Writing w w₁) (table : String)
    (columns : List String) (ps : List Value) (d : δ) :
    Writing w { w₁.after (.ran (.insert table columns) ps) with database := d } := by
  obtain ⟨l, hl, hall⟩ := h
  refine ⟨l ++ [.ran (.insert table columns) ps], by simp [World.after, hl], fun ev hev => ?_⟩
  rcases List.mem_append.mp hev with hev | hev
  · exact hall ev hev
  · rw [List.mem_singleton.mp hev]
    exact .inr rfl

theorem writing_rules (x : Library) (w : World δ) :
    InsertRules x (fun _ => True) (Writing w) where
  newRecord _ _ h := h
  standIn _ _ _ _ _ h _ _ _ _ _ _ := h
  foreignKey _ _ _ _ _ _ h _ _ _ _ _ _ := h
  statement _ n columns ps d h _ _ := h.insertion n.entity.table columns ps d
  number _ _ _ _ h _ _ _ _ := h
  related _ _ _ _ _ _ _ _ _ _ _ := trivial

/-- Every statement that writing runs is an insertion. -/
theorem writeAll_writing {depth : Nat} {rowId : Int}
    (h : writeAll x depth n.entity n.object w = (.ok rowId, w')) : Writing w w' := by
  have hsilent : ∀ {w₁ w₂ : World δ}, Writing w w₁ → Silent (fun _ => True) w₁ w₂ →
      Writing w w₂ := by
    rintro w₁ w₂ ⟨l, hl, hall⟩ hsilent
    obtain ⟨l', hl', hall'⟩ := hsilent.events
    refine ⟨l ++ l', by rw [hl', hl, List.append_assoc], fun ev hev => ?_⟩
    rcases List.mem_append.mp hev with hev | hev
    · exact hall ev hev
    · exact .inl (hall' ev hev)
  obtain ⟨w₁, w₂, hopen, hbody, -, rfl⟩ := withConnection_eq_ok.mp h
  have hstart : Writing w w₁ :=
    hsilent ⟨[], by simp, by simp⟩ (silent_of_ensureOpen readInvariant_true hopen)
  have hinserted : Writing w w₂ :=
    ((writing_rules x w).insertEntity_keeps ⟨true⟩ depth trivial w₁ hstart).1 _ _ hbody
  exact hsilent hinserted (commit_leave_silent readInvariant_true x.management w₂)

/-- A saving validates the root and what it cascades to; up to then nothing is inserted, and from
then on every statement is an insertion. If no entity is held as one of several classes then just
what was validated is inserted. If any of these entities violates a constraint then the saving fails
with nothing inserted and no entity changed, and says all that some entity violates, unless
something could not be looked up. -/
theorem save_validates_cascade {ds : List ClassDeclaration} {constants : List (String × Value)}
    {className : String}
    (hcatalogue : Catalogue.ofDeclarations ds constants = .ok x.catalogue)
    (hentity : x.catalogue.describe className = .ok root.entity)
    (hgraph : EntityGraph x w.records root)
    (hroot : w.records.isInstance x.catalogue root.object root.entity.className = true) :
    (∀ r w', save x true root.entity root.object w = (.ok r, w') →
      ∃ (nodes : List Node) (w₁ : World δ) (reading writing : List Event),
        validateEach x nodes w = (.ok (), w₁)
        ∧ (∀ m, m ∈ nodes ↔ Cascaded x w.records root m)
        ∧ w₁.records = w.records
        ∧ w₁.events = w.events ++ reading ∧ (∀ ev ∈ reading, ev.isInsertion = false)
        ∧ w'.events = w₁.events ++ writing
        ∧ (∀ ev ∈ writing, ev.statement? = none ∨ ev.isInsertion = true)
        ∧ (OneClass x w.records root → ∃ (is : List (Insertion δ)) (opening closing : List Event),
          (∀ m, m ∈ is.map (·.node) ↔ m ∈ nodes)
          ∧ writing = opening ++ is.map (·.event) ++ closing
          ∧ ∀ ev ∈ opening ++ closing, ev.statement? = none))
    ∧ ∀ (I : δ → Prop) (taken : Lookup), Content w.records I taken → I w.database →
      (∃ m viol, Cascaded x w.records root m ∧ Violates taken x w.records m viol) →
      ∃ f w', save x true root.entity root.object w = (.error f, w')
        ∧ w'.records = w.records
        ∧ (∃ l, w'.events = w.events ++ l ∧ ∀ ev ∈ l, ev.isInsertion = false)
        ∧ (Opens I → (∀ m, Cascaded x w.records root m →
            Checkable taken x w.records m ∧ Resolvable x w.records m) →
          ∃ m, Cascaded x w.records root m ∧ Refuted taken x w.records m f) := by
  have hhas : w.records.Has root.object := Records.has_of_isInstance hroot
  refine ⟨fun r w' h => ?_, fun I taken hcontent hstate hviolated => ?_⟩
  · obtain ⟨-, -, w₁, rowId, hvalid, hwrite⟩ := save_eq_ok h
    obtain ⟨nodes, hnodes, hmem⟩ := hvalid.exists_nodes hgraph hhas
    have hreads : Reads (fun _ => True) w w₁ := hvalid.reads readInvariant_true
    obtain ⟨reading, hreading, hnothing⟩ := hreads.events
    obtain ⟨writing, hwriting, hinsertions⟩ := writeAll_writing hwrite
    refine ⟨nodes, w₁, reading, writing, hnodes, hmem, hreads.records, hreading, hnothing, hwriting,
      hinsertions, fun hclass => ?_⟩
    have hc := ofDeclarations_distinct hcatalogue
    have hwf : WellFormed x w₁.records root := hreads.records.symm ▸ ⟨hgraph, hclass⟩
    obtain ⟨w₂, is, hsilent, hsaved⟩ := writeAll_saved False hc (hc.describe hentity) hwf
      (hreads.records.symm ▸ hhas) stateInvariant_true (by simp) trivial hwrite
    rw [hreads.records] at hsaved
    obtain ⟨opening, hopening, hquiet⟩ := hsilent.events
    obtain ⟨closing, hclosing, hquiet'⟩ := hsaved.events
    refine ⟨is, opening, closing, fun m => (hsaved.all m).trans (hmem m).symm, ?_, ?_⟩
    · rw [hclosing, hopening, List.append_assoc, List.append_assoc] at hwriting
      rw [← List.append_cancel_left hwriting, List.append_assoc]
    · intro ev hev
      rcases List.mem_append.mp hev with hev | hev
      · exact hquiet ev hev
      · exact hquiet' ev hev
  · obtain ⟨m, viol, hm, hviol⟩ := hviolated
    have hobject : ∀ {m}, Cascaded x w.records root m → m.object.isNull = false := fun hm => by
      obtain ⟨ref, hobject, -⟩ := (hgraph.has hhas hm).entity
      rw [hobject]
      rfl
    have hinvalid : ∀ w₁, ¬Validated x true root.entity root.object w w₁ := fun w₁ hvalid => by
      obtain ⟨nodes, hnodes, hmem⟩ := hvalid.exists_nodes hgraph hhas
      exact validateEach_valid hcontent hstate (fun m hm => hobject ((hmem m).mp hm))
        (Adds.refl _ _ w) hnodes m ((hmem m).mpr hm) viol hviol
    rcases h : save x true root.entity root.object w with ⟨f | r, w'⟩
    · rcases save_eq_error h with ⟨hcheck, -⟩ | ⟨-, -, hfails⟩ | ⟨-, w₁, hvalid, -⟩
      · rw [checkSavable_of_isInstance hroot] at hcheck
        cases hcheck
      · have hreads : Reads I w w' :=
          (validateAll_reads hcontent.toReadInvariant _ w w (Adds.refl _ _ w)).2 _ _ hfails
        refine ⟨f, w', rfl, hreads.records, hreads.events, fun hopens hchecked => ?_⟩
        have hstopped := (validateAll_validates hgraph hhas hcontent.toReadInvariant
          (relationDepth w.records) root [] w .refl ⟨List.nodup_nil, by simp⟩
          (by simp [relationDepth]) rfl).2 _ _ hfails
        rcases hstopped with ⟨k, w₁, hk, hreads₁, hfails₁⟩ | ⟨k, hk, hresolvable⟩
        · refine ⟨k, hk, ?_⟩
          have hends := (validate_ends hcontent hstate hreads₁ (hobject hk)).2 _ _ hfails₁
          exact hends.resolve_right fun hnot => hnot ⟨hopens, (hchecked k hk).1⟩
        · exact absurd (hchecked k hk).2 hresolvable
      · exact absurd hvalid (hinvalid w₁)
    · obtain ⟨-, -, w₁, rowId, hvalid, -⟩ := save_eq_ok h
      exact absurd hvalid (hinvalid w₁)

/-! ## Lines with and without a name -/

namespace Sample

theorem describe_line : library.catalogue.describe "Line" = .ok lineEntity := by
  decide +kernel

/-- A new line without the name that it has to have. -/
def nameless : World Script :=
  { records := [⟨"Line", [("id", .null), ("name", .null)], false⟩], database := {} }

def namelessLine : Node := ⟨lineEntity, .entity 0⟩

theorem not_holds_namelessLine : ¬Holds library nameless.records namelessLine m := by
  rintro ⟨j, hj, -⟩
  exact absurd (show j ∈ [] from hj) List.not_mem_nil

theorem eq_namelessLine (h : Cascaded library nameless.records namelessLine m) :
    m = namelessLine :=
  Visited.eq_of_not_holds (fun _ => not_holds_namelessLine) (.inl h)

/-- What a script without answers says of a value. -/
def unscripted : Lookup := fun table column key =>
  ((Database.run nameless.records (.count table (.byColumn column)) [key] ({} : Script)).1.mapError
    StatementError.toFailure).bind Reply.countsAny

theorem content_unscripted : Content nameless.records (fun d : Script => d = {}) unscripted where
  connect _ d hd := by rw [hd]; rfl
  count _ _ _ _ d hd := by rw [hd]; rfl
  commit _ hd := hd
  commits _ _ := rfl
  rollback _ hd := hd
  answers table column key d hd := by rw [hd]; rfl

/-- A line without a name violates the constraint on its name. -/
theorem violates_namelessLine :
    Violates unscripted library nameless.records namelessLine (.columnAbsent "name") :=
  .inl ⟨nameColumn, show nameColumn ∈ [keyColumn, nameColumn] by simp,
    .absent rfl rfl rfl rfl fun j hj => absurd (show j ∈ [] from hj) List.not_mem_nil⟩

/-- Neither its key nor its name has to be looked up. -/
theorem checkable_namelessLine : Checkable unscripted library nameless.records namelessLine := by
  refine ⟨fun col hcol => ?_, fun j hj => absurd (show j ∈ [] from hj) List.not_mem_nil⟩
  rcases List.mem_pair.mp (show col ∈ [keyColumn, nameColumn] from hcol) with rfl | rfl
  · exact fun hauto => absurd hauto (by decide)
  · exact fun _ hpresent => absurd hpresent (by decide)

end Sample

open Sample in
/-- A new product on a new line is validated with its line; a new line without a name is not saved,
and the failure says why. -/
theorem save_validates_cascade_newProduct :
    (∃ (r : Value) (w' : World Script) (nodes : List Node) (is : List (Insertion Script)),
      save library true newProduct.entity newProduct.object { records, database := {} }
          = (.ok r, w')
        ∧ (∀ m, m ∈ nodes ↔ Cascaded library records newProduct m)
        ∧ ∀ m, m ∈ is.map (·.node) ↔ m ∈ nodes)
      ∧ ∃ f w', save library true namelessLine.entity namelessLine.object nameless = (.error f, w')
        ∧ w'.records = nameless.records
        ∧ Refuted unscripted library nameless.records namelessLine f := by
  refine ⟨?_, ?_⟩
  · have hok : (save library true newProduct.entity newProduct.object
        ({ records, database := {} } : World Script)).1.isOk = true := by
      decide +kernel
    obtain ⟨r, w', h⟩ := Op.exists_ok hok
    obtain ⟨nodes, w₁, _, _, -, hnodes, -, -, -, -, -, hinserted⟩ :=
      (save_validates_cascade ofDeclarations_library describe_product
        wellFormed_newProduct.toEntityGraph (by decide +kernel)).1 r w' h
    obtain ⟨is, _, _, his, -⟩ := hinserted wellFormed_newProduct.oneClass
    exact ⟨r, w', nodes, is, h, hnodes, his⟩
  · obtain ⟨f, w', hsave, hrecords, -, hrefuted⟩ :=
      (save_validates_cascade (w := nameless) ofDeclarations_library describe_line
        (wellFormed_of_not_holds fun _ => not_holds_namelessLine).toEntityGraph
        (by decide +kernel)).2 (fun d => d = {}) unscripted content_unscripted rfl
        ⟨namelessLine, _, .refl, violates_namelessLine⟩
    have hopens : Opens fun d : Script => d = {} := fun _ d hd => by rw [hd]; rfl
    obtain ⟨m, hm, hf⟩ := hrefuted hopens fun m hm => by
      cases eq_namelessLine hm
      exact ⟨checkable_namelessLine, fun j hj => absurd (show j ∈ [] from hj) List.not_mem_nil⟩
    cases eq_namelessLine hm
    exact ⟨f, w', hsave, hrecords, hf⟩

/-! ## Where validating and inserting differ

An entity that is held as one of two classes with one key is validated as both. But it is inserted
as one of the first only, since it has its key then; so what it holds as one of the second is not
inserted. And a value that cannot be stored fails the looking up, whatever else is wrong. -/

namespace SharedKey

open Sample (key column)

/-- The table into which a validating event looks, if it does. -/
def countedTable? : Event → Option String
  | .ran (.count table _) _ => some table
  | _ => none

def extra : ClassDeclaration where
  name := "Extra"
  table := some "extra"
  fields := [key, column "label" "str" { unique := true }]

def plain : ClassDeclaration := { name := "Plain", table := some "plain", fields := [key] }

/-- A class that extends it, with the same key. -/
def rich : ClassDeclaration where
  name := "Rich"
  base := some "Plain"
  isRecord := true
  table := some "rich"
  fields := [⟨"extra", "Extra", .join { target := "extra_id", related := "Extra", source := "id" }⟩]

/-- A class that is related to both. -/
def owner : ClassDeclaration where
  name := "Owner"
  table := some "owner"
  fields :=
    [key, ⟨"first", "Plain", .join { target := "first_id", related := "Plain", source := "id" }⟩,
     ⟨"second", "Rich", .join { target := "second_id", related := "Rich", source := "id" }⟩]

/-- A class with a name that is required, and a day that is looked up. -/
def stamp : ClassDeclaration where
  name := "Stamp"
  table := some "stamps"
  fields :=
    [key, column "day" "datetime" { unique := true },
     column "name" "str" { nullable := some false }]

def library : Library where
  catalogue := (Catalogue.ofDeclarations [extra, plain, rich, owner, stamp] []).toOption.getD {}
  management := { location := .file, timeout := .int 10, foreignKeys := false }

def toExtra : Join := { field := "extra", target := "extra_id", related := "Extra", source := "id" }
def first : Join := { field := "first", target := "first_id", related := "Plain", source := "id" }
def second : Join := { field := "second", target := "second_id", related := "Rich", source := "id" }

def newOwner : Node where
  entity := ⟨"Owner", "owner", [.column Sample.keyColumn, .join first, .join second]⟩
  object := .entity 0

/-- The entity that the owner holds, as one of the first class. -/
def sharedPlain : Node := ⟨⟨"Plain", "plain", [.column Sample.keyColumn]⟩, .entity 1⟩

/-- The same entity as one of the second class. -/
def sharedRich : Node := ⟨⟨"Rich", "rich", [.column Sample.keyColumn, .join toExtra]⟩, .entity 1⟩

def labelColumn : Column := { field := "label", name := "label", type := .text, unique := true }

def newExtra : Node where
  entity := ⟨"Extra", "extra", [.column Sample.keyColumn, .column labelColumn]⟩
  object := .entity 2

/-- An owner that holds one entity twice, which holds another. -/
def records : Records :=
  [⟨"Owner", [("id", .null), ("first", .entity 1), ("second", .entity 1)], false⟩,
   ⟨"Rich", [("id", .null), ("extra", .entity 2)], false⟩,
   ⟨"Extra", [("id", .null), ("label", .text "spare")], false⟩]

/-- The nodes of the graph. -/
def Present (n : Node) : Prop :=
  n = newOwner ∨ n = sharedPlain ∨ n = sharedRich ∨ n = newExtra

theorem holds_cases (hn : Present n) (h : Holds library records n m) :
    n = newOwner ∧ (m = sharedPlain ∨ m = sharedRich) ∨ n = sharedRich ∧ m = newExtra := by
  obtain ⟨j, hj, hm⟩ := h
  rcases hn with rfl | rfl | rfl | rfl
  · have hplain : library.catalogue.describeRelated first = .ok sharedPlain.entity := by
      decide +kernel
    have hrich : library.catalogue.describeRelated second = .ok sharedRich.entity := by
      decide +kernel
    rcases List.mem_pair.mp (show j ∈ [first, second] from hj) with rfl | rfl
    · exact .inl ⟨rfl, .inl (hm.unique ⟨rfl, rfl, hplain⟩)⟩
    · exact .inl ⟨rfl, .inr (hm.unique ⟨rfl, rfl, hrich⟩)⟩
  · exact absurd (show j ∈ [] from hj) List.not_mem_nil
  · have hextra : library.catalogue.describeRelated toExtra = .ok newExtra.entity := by
      decide +kernel
    rw [List.mem_singleton.mp (show j ∈ [toExtra] from hj)] at hm
    exact .inr ⟨rfl, hm.unique ⟨rfl, rfl, hextra⟩⟩
  · exact absurd (show j ∈ [] from hj) List.not_mem_nil

theorem graph_newOwner : EntityGraph library records newOwner := by
  refine .of_number_lt (P := Present) (.inl rfl) fun n m hn h => ?_
  rcases holds_cases hn h with ⟨rfl, rfl | rfl⟩ | ⟨rfl, rfl⟩
  · exact ⟨.inr (.inl rfl), by decide +kernel, by decide⟩
  · exact ⟨.inr (.inr (.inl rfl)), by decide +kernel, by decide⟩
  · exact ⟨.inr (.inr (.inr rfl)), by decide +kernel, by decide⟩

/-- A day that is before all days that can be stored, and no name. -/
def undated : Records :=
  [⟨"Stamp", [("id", .null), ("day", .moment ⟨-62135596800000000, none⟩), ("name", .null)], false⟩]

def dayColumn : Column := { field := "day", name := "day", type := .timestamp, unique := true }
def nameColumn : Column := { field := "name", name := "name", type := .text, nullable := false }

def newStamp : Node where
  entity := ⟨"Stamp", "stamps", [.column Sample.keyColumn, .column dayColumn, .column nameColumn]⟩
  object := .entity 0

theorem not_holds_newStamp : ¬Holds library undated newStamp m := by
  rintro ⟨j, hj, -⟩
  exact absurd (show j ∈ [] from hj) List.not_mem_nil

/-- The extra entity is looked up but not inserted, though all are instances and none is in a
circle; and the stamp without a name is not said to be without one. -/
theorem save_validates_more_than_inserted :
    (library.catalogue.describe "Owner" = .ok newOwner.entity
      ∧ EntityGraph library records newOwner
      ∧ (save library true newOwner.entity newOwner.object
        ({ records, database := {} } : World Script)).1.isOk = true
      ∧ (save library true newOwner.entity newOwner.object
        ({ records, database := {} } : World Script)).2.events.filterMap countedTable? = ["extra"]
      ∧ (save library true newOwner.entity newOwner.object
        ({ records, database := {} } : World Script)).2.events.filterMap Event.insertedTable?
          = ["plain", "owner"])
      ∧ library.catalogue.describe "Stamp" = .ok newStamp.entity
      ∧ WellFormed library undated newStamp
      ∧ Violates (fun _ _ _ => .ok false) library undated newStamp (.columnAbsent "name")
      ∧ ((save library true newStamp.entity newStamp.object
        ({ records := undated, database := {} } : World Script)).1.map fun _ => ())
          = .error (.conversion .yearOutOfRange) := by
  refine ⟨⟨by decide +kernel, graph_newOwner, by decide +kernel, by decide +kernel,
    by decide +kernel⟩, by decide +kernel, wellFormed_of_not_holds fun _ => not_holds_newStamp, ?_,
    by decide +kernel⟩
  exact .inl ⟨nameColumn, show nameColumn ∈ [Sample.keyColumn, dayColumn, nameColumn] by simp,
    .absent rfl rfl rfl rfl fun j hj => absurd (show j ∈ [] from hj) List.not_mem_nil⟩

end SharedKey

end EntityMap
