import Sentinel.Worker.ActiveRows
import Sentinel.Worker.CacheCoherence

/-!
# A second active row stays

Once a pair has two active rows, whatever put them there, it has two for ever: each commit takes
the flag from one row at most and brings one active row with it. From then on every read of the
table for this pair raises.

* `OwnPrevious` — the row that a save makes inactive is a row of its own pair
* `activeRows_length_mono` — the number of active rows of a pair never decreases
* `duplicates_stay` — so no later save of the pair goes through, and no lookup that misses Redis
-/

namespace Sentinel

open Lib

/-! ## what a commit does to the number of active rows -/

/-- The row to be made inactive is one of the pair that is saved. -/
def OwnPrevious (s : SelectorStore) (write : SelectorWrite) : Prop :=
  ∀ p, write.previous = some p → ∃ r ∈ s.rows, r.id = p.id ∧
    r.domain = write.selector.domain ∧ r.fieldName = write.selector.fieldName

/-- Rows are never taken away and never change their pair. -/
def RowsKept (s s' : SelectorStore) : Prop :=
  ∀ r ∈ s.rows, ∃ r' ∈ s'.rows, r'.id = r.id ∧ r'.domain = r.domain ∧ r'.fieldName = r.fieldName

section Commit

variable {s s' s'' : SelectorStore} {write : SelectorWrite} {domain fieldName : String}

theorem RowsKept.refl (s : SelectorStore) : RowsKept s s := fun r hr => ⟨r, hr, rfl, rfl, rfl⟩

theorem RowsKept.trans (h : RowsKept s s') (h' : RowsKept s' s'') : RowsKept s s'' := by
  intro r hr
  obtain ⟨r', hr', hid, hd, hf⟩ := h r hr
  obtain ⟨r'', hr'', hid', hd', hf'⟩ := h' r' hr'
  exact ⟨r'', hr'', hid'.trans hid, hd'.trans hd, hf'.trans hf⟩

theorem RowsKept.of_rows (h : s'.rows = s.rows) : RowsKept s s' := by
  intro r hr
  exact ⟨r, by rw [h]; exact hr, rfl, rfl, rfl⟩

theorem deactivate_pair (previous : Option SelectorModel) (r : SelectorModel) :
    (SelectorStore.deactivate previous r).id = r.id ∧
      (SelectorStore.deactivate previous r).domain = r.domain ∧
      (SelectorStore.deactivate previous r).fieldName = r.fieldName := by
  unfold SelectorStore.deactivate
  split <;> exact ⟨rfl, rfl, rfl⟩

theorem RowsKept.commit (s : SelectorStore) (write : SelectorWrite) :
    RowsKept s (s.commit write) := fun r hr =>
  ⟨_, List.mem_append_left _ (List.mem_map_of_mem hr), deactivate_pair write.previous r⟩

theorem OwnPrevious.mono (h : OwnPrevious s write) (hs : RowsKept s s') :
    OwnPrevious s' write := by
  intro p hp
  obtain ⟨r, hr, hid, hd, hf⟩ := h p hp
  obtain ⟨r', hr', hid', hd', hf'⟩ := hs r hr
  exact ⟨r', hr', hid'.trans hid, hd'.trans hd, hf'.trans hf⟩

/-- What the select of a save returns is a row of its pair. -/
theorem ownPrevious_of_select {previous : Option SelectorModel} {selector : Selector}
    (h : scalarOneOrNone (s.activeRows selector.domain selector.fieldName) = .ok previous) :
    OwnPrevious s ⟨previous, selector⟩ := by
  intro p hp
  obtain ⟨hr, hd, hf⟩ := SelectorStore.mem_rowsOf.mp (SelectorStore.mem_rowsOf_of_previous h hp)
  exact ⟨p, hr, rfl, hd, hf⟩

/-- Among rows with different ids one at most loses its flag. -/
theorem active_deactivate {previous : Option SelectorModel} {l : List SelectorModel}
    (hl : (l.map (·.id)).Nodup) :
    (l.filter (·.isActive)).length ≤
      ((l.map (SelectorStore.deactivate previous)).filter (·.isActive)).length + 1 := by
  induction l with
  | nil => simp
  | cons r l ih =>
    rw [List.map_cons, List.nodup_cons] at hl
    obtain ⟨hr, hl⟩ := hl
    by_cases hid : previous.any (·.id == r.id) = true
    · -- the others have other ids and stay as they are
      have hrest : l.map (SelectorStore.deactivate previous) = l := by
        refine (List.map_congr_left fun r' hr' => ?_).trans (List.map_id l)
        unfold SelectorStore.deactivate
        refine if_neg fun hid' => hr ?_
        cases previous with
        | none => cases hid
        | some p =>
          have h : p.id = r.id := by simpa using hid
          have h' : p.id = r'.id := by simpa using hid'
          rw [← h, h']
          exact List.mem_map_of_mem hr'
      rw [List.map_cons, hrest]
      have hlen : ((r :: l).filter (·.isActive)).length ≤ (l.filter (·.isActive)).length + 1 := by
        rw [List.filter_cons]
        split <;> simp
      refine Nat.le_trans hlen (Nat.succ_le_succ ?_)
      rw [List.filter_cons]
      split <;> simp
    · have hsame : SelectorStore.deactivate previous r = r := if_neg hid
      rw [List.map_cons, hsame, List.filter_cons, List.filter_cons]
      have := ih hl
      split
      · rw [List.length_cons, List.length_cons]
        omega
      · exact this

/-- A commit brings one active row and takes the flag from one at most. -/
theorem activeRows_length_commit (hs : s.IdsDistinct) (hown : OwnPrevious s write) :
    (s.activeRows domain fieldName).length ≤
      ((s.commit write).activeRows domain fieldName).length := by
  rw [SelectorStore.activeRows_eq, SelectorStore.activeRows_eq, SelectorStore.rowsOf_commit,
    List.filter_append, List.length_append]
  by_cases hpair : (write.selector.domain, write.selector.fieldName) = (domain, fieldName)
  · rw [if_pos hpair]
    have hids : ((s.rowsOf domain fieldName).map (·.id)).Nodup := by
      have hnd : (s.rows.map (·.id)).Nodup := by
        rw [show s.rows.map (·.id) = _ from hs]
        exact List.nodup_range'
      exact hnd.sublist (List.filter_sublist.map _)
    exact active_deactivate hids
  · -- the row that loses its flag is one of another pair
    have hsame : (s.rowsOf domain fieldName).map (SelectorStore.deactivate write.previous) =
        s.rowsOf domain fieldName := by
      refine (List.map_congr_left fun r hr => ?_).trans (List.map_id _)
      obtain ⟨hr, hd, hf⟩ := SelectorStore.mem_rowsOf.mp hr
      unfold SelectorStore.deactivate
      refine if_neg fun hid => hpair ?_
      cases hprev : write.previous with
      | none => rw [hprev] at hid; cases hid
      | some p =>
        rw [hprev] at hid
        obtain ⟨r', hr', hid', hd', hf'⟩ := hown p hprev
        have heq : r' = r := hs.inj hr' hr (hid'.trans (by simpa using hid))
        rw [← hd', ← hf', heq, hd, hf]
    rw [hsame]
    exact Nat.le_add_right _ _

end Commit

/-! ## runs -/

/-- Rows are kept, and a commit makes a row of its own pair inactive. -/
def rowDiscipline : Machine.Discipline SelectorPort PyError SelectorRole SelectorStore where
  inv := SelectorStore.IdsDistinct
  rely _ := ⟨RowsKept, RowsKept.refl, RowsKept.trans⟩
  guar _ op s s' := RowsKept s s' ∧ ∀ write, op = .commit write → OwnPrevious s write
  sem _ op s r s' := storeStep op s = (r, s')
  fresh _ _ := True
  post _ _ _ := True

section Runs

variable {X : SelectorSetting} {s s' : SelectorStore} {domain fieldName : String}

/-- A command that is no commit keeps the discipline. -/
theorem rowDiscipline_keeps {op : SelectorPort.Op} {r : Except PyError (SelectorPort.Ans op)}
    (hop : NotCommit op) (hinv : s.IdsDistinct) (h : storeStep op s = (r, s')) :
    (RowsKept s s' ∧ ∀ write, op = .commit write → OwnPrevious s write) ∧ s'.IdsDistinct := by
  have hrows := storeStep_keeps hop h
  exact ⟨⟨RowsKept.of_rows hrows, fun write he => absurd he (hop write)⟩, hinv.of_rows hrows⟩

theorem getActiveSelector_rows (i : SelectorRole) (domain fieldName : String)
    (s : SelectorStore) :
    (getActiveSelector domain fieldName >>= fun _ => pure () : SelectorProg Unit).Safe
      (rowDiscipline.contract i) (rowDiscipline.post i) s :=
  ((getActiveSelector_only domain fieldName).bind fun _ => by trivial).safe
    (fun _ _ _ _ hop hinv hsem => rowDiscipline_keeps hop hinv hsem) (fun _ _ => trivial) s

/-- **A save deactivates a row of its own pair**, however many others it runs beside. -/
theorem saveSelector_rows (i : SelectorRole) (selector : Selector) (s : SelectorStore) :
    (saveSelector selector).Safe (rowDiscipline.contract i) (rowDiscipline.post i) s := by
  unfold saveSelector saveToPostgres
  simp only [bind_assoc]
  rw [Prog.safe_perform_bind]
  intro s₁ _ hinv₁ r s₂ hsem
  refine ⟨rowDiscipline_keeps nofun hinv₁ hsem, ?_⟩
  cases hsem
  show (Prog.lift (scalarOneOrNone _) >>= _ : SelectorProg Unit).Safe _ _ _
  cases hprev : scalarOneOrNone (s₁.activeRows selector.domain selector.fieldName) with
  | error e => trivial
  | ok previous =>
    have hown := ownPrevious_of_select hprev
    rw [Prog.lift_ok, Prog.ret_bind, Prog.safe_perform_bind]
    -- the flush
    intro s₂ hkept₂ hinv₂ r s₃ hsem
    refine ⟨rowDiscipline_keeps nofun hinv₂ hsem, ?_⟩
    cases hsem
    show (SelectorPort.commit _ >>= _ : SelectorProg Unit).Safe _ _ _
    rw [Prog.safe_perform_bind]
    -- the row that was read is still in the table when the save commits
    intro s₃ hkept₃ hinv₃ r s₄ hsem
    cases hsem
    refine ⟨⟨⟨RowsKept.commit s₃ _, ?_⟩, hinv₃.commit _⟩, ?_⟩
    · rintro write ⟨⟩
      exact (hown.mono hkept₂).mono hkept₃
    · show (writeToCache _).Safe _ _ _
      refine Prog.safe_perform.mpr ?_
      intro s₄ _ hinv₄ r s₅ hsem
      exact ⟨rowDiscipline_keeps nofun hinv₄ hsem, trivial⟩

theorem rowDiscipline_sound (g : SelectorGuard) :
    (selectorMachine X).Sound g rowDiscipline fun _ => True where
  sem hsem _ := hsem
  spawn hsp _ _ := by
    cases hsp with
    | reader n _ => exact getActiveSelector_rows _ _ _ _
    | writer n _ => exact saveSelector_rows _ _ _
  compat _ _ _ _ _ _ hguar := hguar.1
  freshStable _ _ _ _ := trivial
  env := by
    rintro s s' ⟨key, rfl⟩ hinv
    exact ⟨hinv.of_rows rfl, fun _ => RowsKept.of_rows rfl, fun _ _ => trivial⟩

/-- One step of a run takes no active row away. -/
theorem activeRows_length_step {c c' : SelectorPool}
    (h : (selectorMachine X).Steps Machine.anyStep selectorInitial c)
    {l : Label SelectorPort PyError SelectorRole} (hf : (selectorMachine X).Fire c l c') :
    (c.state.activeRows domain fieldName).length ≤
      (c'.state.activeRows domain fieldName).length := by
  have h0 : Machine.Ok rowDiscipline selectorInitial := Machine.Ok.initial rfl fun _ => trivial
  have hsame : ∀ {s s' : SelectorStore}, s'.rows = s.rows →
      (s.activeRows domain fieldName).length ≤ (s'.activeRows domain fieldName).length := by
    intro s s' hrows
    have hactive : s'.activeRows domain fieldName = s.activeRows domain fieldName := by
      simp only [SelectorStore.activeRows, hrows]
    exact Nat.le_of_eq (congrArg List.length hactive.symm)
  cases hf with
  | spawn => exact Nat.le_refl _
  | crash => exact Nat.le_refl _
  | env henv =>
    obtain ⟨key, rfl⟩ := henv
    exact hsame rfl
  | @call i op k r s' hi hsem =>
    have hguar := (rowDiscipline_sound Machine.anyStep).call (fun _ _ => trivial) h0 h
      (Machine.Fire.call hi hsem) trivial
    have hinv := ((rowDiscipline_sound Machine.anyStep).ok (fun _ _ => trivial) h0 h).inv
    change storeStep op c.state = (r, s') at hsem
    rcases storeStep_rows op c.state with hrows | ⟨write, rfl, hcommit⟩
    · rw [hsem] at hrows
      exact hsame hrows
    · rw [hsem] at hcommit
      show _ ≤ (s'.activeRows domain fieldName).length
      rw [show s' = c.state.commit write from hcommit]
      exact activeRows_length_commit hinv (hguar.2 write rfl)

/-- **The number of active rows of a pair never decreases.** -/
theorem activeRows_length_mono {c c' : SelectorPool}
    (h : (selectorMachine X).Steps Machine.anyStep selectorInitial c)
    (h' : (selectorMachine X).Steps Machine.anyStep c c') :
    (c.state.activeRows domain fieldName).length ≤
      (c'.state.activeRows domain fieldName).length :=
  h'.induct (P := fun c' => (c.state.activeRows domain fieldName).length ≤
      (c'.state.activeRows domain fieldName).length) (Nat.le_refl _)
    fun _ _ _ hrun ih hf _ => Nat.le_trans ih (activeRows_length_step (h.trans hrun) hf)

theorem scalarOneOrNone_of_two {α : Type} {l : List α} (h : 2 ≤ l.length) :
    scalarOneOrNone l = .error .multipleResultsFound := by
  match l, h with
  | _ :: _ :: _, _ => rfl

/--
**A pair with two active rows keeps them**, and is cut off from its rows. In every later state of
the run a save of the pair raises and writes nothing; a lookup that finds no entry in Redis raises,
and one that finds an entry answers it.
-/
theorem duplicates_stay {c c' : SelectorPool}
    (h : (selectorMachine X).Steps Machine.anyStep selectorInitial c)
    (h' : (selectorMachine X).Steps Machine.anyStep c c')
    (htwo : 2 ≤ (c.state.activeRows domain fieldName).length) :
    2 ≤ (c'.state.activeRows domain fieldName).length ∧
      (∀ selector : Selector, selector.domain = domain → selector.fieldName = fieldName →
        (saveSelector selector).exec storeStep c'.state =
          (.error .multipleResultsFound, c'.state)) ∧
      (getActiveSelector domain fieldName).exec storeStep c'.state =
        match c'.state.cache (cacheKey domain fieldName) with
        | none => (.error .multipleResultsFound, c'.state)
        | some payload => (.ok (some (payload.toSelector domain fieldName)), c'.state) := by
  have htwo' := Nat.le_trans htwo (activeRows_length_mono h h')
  have hread := scalarOneOrNone_of_two htwo'
  refine ⟨htwo', ?_, ?_⟩
  · rintro selector rfl rfl
    rw [exec_saveSelector, hread]
  · cases hcache : c'.state.cache (cacheKey domain fieldName) with
    | none => rw [exec_getActiveSelector_miss hcache, hread]
    | some payload => rw [exec_getActiveSelector_hit hcache]

end Runs

/-- A third save, after the two that ran side by side. -/
def thirdSave : List (Machine.Move SelectorPort PyError SelectorRole SelectorStore) :=
  [.spawn (.writer 2) (saveSelector (firstSave "h3")), .turn (.writer 2) 1]

theorem duplicates_stay_thirdSave : ∃ s : SelectorStore,
    2 ≤ (s.activeRows "shop.test" "title").length ∧
      (saveSelector (firstSave "h4")).exec storeStep s = (.error .multipleResultsFound, s) := by
  have hrun : (selectorMachine anySelectorUse).Steps Machine.anyStep selectorInitial
      (Machine.play (fun _ => storeStep) twoFirstSaves selectorInitial) :=
    Machine.Steps.play (h := fun _ => storeStep) (fun _ _ _ => rfl) twoFirstSaves selectorInitial
      ⟨⟨⟨rfl, .writer 0 trivial⟩, trivial⟩, ⟨⟨rfl, .writer 1 trivial⟩, trivial⟩,
        Machine.turnAllowed_anyStep _ _ _, Machine.turnAllowed_anyStep _ _ _,
        Machine.turnAllowed_anyStep _ _ _, Machine.turnAllowed_anyStep _ _ _, trivial⟩
  have hrun' : (selectorMachine anySelectorUse).Steps Machine.anyStep
      (Machine.play (fun _ => storeStep) twoFirstSaves selectorInitial)
      (Machine.play (fun _ => storeStep) thirdSave
        (Machine.play (fun _ => storeStep) twoFirstSaves selectorInitial)) :=
    Machine.Steps.play (h := fun _ => storeStep) (fun _ _ _ => rfl) thirdSave _
      ⟨⟨⟨rfl, .writer 2 trivial⟩, trivial⟩, Machine.turnAllowed_anyStep _ _ _, trivial⟩
  have hboth : 2 ≤ ((Machine.play (fun _ => storeStep) twoFirstSaves
      selectorInitial).state.activeRows "shop.test" "title").length := by decide
  obtain ⟨htwo, hsave, -⟩ := duplicates_stay hrun hrun' hboth
  exact ⟨_, htwo, hsave (firstSave "h4") rfl rfl⟩

end Sentinel
