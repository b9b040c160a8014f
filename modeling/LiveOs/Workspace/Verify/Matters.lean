import LiveOs.Workspace.Verify.Actionable

/-!
# What the work list shows

The duties of a member, and when the list of what requires action has them all. Tasks and
feedbacks are cut to the ten newest rows of every state and role before they are sorted into lists,
so a duty is shown when it is among those rows.
-/

namespace LiveOs.Workspace

open Lib Roles Proposals Procurement Tasks Feedback

variable {rt : Runtime}

/-! ## Duties -/

/-- The tasks that the member has to work on. -/
def dutyTasks (db : WorkDb rt) (m : Member) : List WorkTask :=
  db.tasks.rows.filter fun t => t.assigneeMember = some m.pk && needsAssignee t

/-- The feedbacks that the member has to answer or to handle. -/
def dutyFeedbacks (db : WorkDb rt) (m : Member) : List EventFeedback :=
  db.feedbacks.rows.filter (needsMember m)

/-- The member has governance or finance capability. -/
def mayGovern (db : WorkDb rt) (now : Nat) (m : Member) : Bool :=
  memberCanAdminister db.state.roles.db now m || isFinanceReviewer db.state.roles.db now m

/-- The proposals and quotes that wait for someone with governance or finance capability. -/
def governanceDuties (db : WorkDb rt) (now : Nat) (m : Member) : List Matter :=
  ((actionableProposals db now m).map (actionableMatter db) ++
      (db.state.proposals.rows.filter fun p => p.status = .approved).map (executableMatter db)) ++
    ((db.quotes.rows.filter (awaitsReceipt db)).map (receiptMatter db) ++
      (db.quotes.rows.filter awaitsPayment).map (paymentMatter db))

/-- Everything that requires action of the member. -/
def duties (db : WorkDb rt) (now : Nat) (m : Member) : List Matter :=
  (dutyTasks db m).map (taskMatter m) ++ (dutyFeedbacks db m).map (feedbackMatter db m) ++
    if mayGovern db now m then governanceDuties db now m else []

/-- The list of what requires action has every duty, and no matter stands twice in it and in the
waiting list. -/
structure MattersComplete (db : WorkDb rt) (now : Nat) (m : Member) : Prop where
  shown : ∀ matter ∈ duties db now m, matter ∈ (buildMemberMatters db now m).actionRequired
  distinct : (((buildMemberMatters db now m).actionRequired ++
    (buildMemberMatters db now m).waiting).map Matter.id).Nodup

/-- Every duty is among the ten newest active tasks, or the ten newest feedbacks, of the member. -/
structure DutiesRecent (db : WorkDb rt) (m : Member) : Prop where
  tasks : ∀ t ∈ dutyTasks db m, t ∈ activeTasks db m
  feedbacks : ∀ f ∈ dutyFeedbacks db m, f ∈ memberFeedbacks db m

/-! ## Queries -/

theorem mem_of_mem_take_newestFirst {α : Type} {keys : α → List Nat} {id : α → String}
    {rows : List α} {n : Nat} {x : α} (h : x ∈ (newestFirst keys id rows).take n) : x ∈ rows :=
  (newestFirst_perm keys id rows).mem_iff.1 (List.mem_of_mem_take h)

theorem take_newestFirst_nodup {α κ : Type} {keys : α → List Nat} {id : α → String} {pk : α → κ}
    {rows : List α} {n : Nat} (h : (rows.map pk).Nodup) :
    (((newestFirst keys id rows).take n).map pk).Nodup :=
  (((newestFirst_perm keys id rows).map pk).nodup_iff.2 h).sublist
    ((List.take_sublist _ _).map pk)

/-- Rows of a table have different keys, also after a filter. -/
theorem filter_keys_nodup {ρ κ α : Type} {pk : ρ → κ} {alt : ρ → Option α} (t : Table ρ κ α pk alt)
    (p : ρ → Bool) : ((t.rows.filter p).map pk).Nodup :=
  t.pkUnique.sublist (List.filter_sublist.map pk)

theorem take_of_short {α : Type} {keys : α → List Nat} {id : α → String} {rows : List α}
    {n : Nat} (h : rows.length ≤ n) :
    ((newestFirst keys id rows).take n).Perm rows := by
  rw [List.take_of_length_le (by rw [(newestFirst_perm keys id rows).length_eq]; exact h)]
  exact newestFirst_perm keys id rows

theorem sortMatters_perm (items : List Matter) : (sortMatters items).Perm items :=
  List.perm_insertionSort _ _

theorem mem_activeTasks {db : WorkDb rt} {m : Member} {t : WorkTask} (h : t ∈ activeTasks db m) :
    t ∈ db.tasks.rows ∧ t.assigneeMember = some m.pk := by
  have hmem := List.mem_filter.1 (mem_of_mem_take_newestFirst h)
  rw [Bool.and_eq_true, decide_eq_true_eq] at hmem
  exact ⟨hmem.1, hmem.2.1⟩

theorem mem_dutyTasks {db : WorkDb rt} {m : Member} {t : WorkTask} (h : t ∈ activeTasks db m)
    (hneeds : needsAssignee t = true) : t ∈ dutyTasks db m := by
  obtain ⟨hmem, hassignee⟩ := mem_activeTasks h
  exact List.mem_filter.2 ⟨hmem, by simp [hassignee, hneeds]⟩

theorem not_feedbackEnded {m : Member} {f : EventFeedback} (h : needsMember m f = true) :
    feedbackEnded f = false := by
  unfold needsMember subjectMustRespond handlerMustAct at h
  unfold feedbackEnded
  cases hs : f.status <;> simp [hs] at h ⊢

theorem mem_dutyFeedbacks {db : WorkDb rt} {m : Member} {f : EventFeedback}
    (h : f ∈ memberFeedbacks db m) (hneeds : needsMember m f = true) : f ∈ dutyFeedbacks db m :=
  List.mem_filter.2 ⟨(List.mem_filter.1 (mem_of_mem_take_newestFirst h)).1, hneeds⟩

/-! ## What is in the list -/

/-- The worksets show all proposals and quotes when there are few of them. -/
theorem governanceMatters_perm {db : WorkDb rt} {now : Nat} {m : Member}
    (h : (governanceDuties db now m).length ≤ matterDisplayLimit) :
    (governanceMatters db (governanceWorksets db now m
      (memberCanAdminister db.state.roles.db now m)
      (isFinanceReviewer db.state.roles.db now m))).Perm (governanceDuties db now m) := by
  unfold governanceDuties at h
  simp only [List.length_append, List.length_map] at h
  have hactionable : ((actionableProposalQueryset db m
      (memberCanAdminister db.state.roles.db now m)
      (isFinanceReviewer db.state.roles.db now m)).take matterDisplayLimit).Perm
      (actionableProposals db now m) := by
    have hperm := actionableProposalQueryset_perm db now m
    rw [List.take_of_length_le (by rw [hperm.length_eq]; omega)]
    exact hperm
  unfold governanceMatters governanceWorksets governanceDuties
  refine ((hactionable.map _).append ((take_of_short ?_).map _)).append
    (((take_of_short ?_).map _).append ((take_of_short ?_).map _)) <;> omega

theorem governanceMatters_subset {db : WorkDb rt} {now : Nat} {m : Member} {matter : Matter}
    (h : matter ∈ governanceMatters db (governanceWorksets db now m
      (memberCanAdminister db.state.roles.db now m)
      (isFinanceReviewer db.state.roles.db now m))) : matter ∈ governanceDuties db now m := by
  unfold governanceMatters governanceWorksets at h
  unfold governanceDuties
  simp only [List.mem_append, List.mem_map] at h ⊢
  rcases h with (⟨p, hp, rfl⟩ | ⟨p, hp, rfl⟩) | ⟨q, hq, rfl⟩ | ⟨q, hq, rfl⟩
  · exact .inl (.inl ⟨p, (actionableProposalQueryset_perm db now m).mem_iff.1
      (List.mem_of_mem_take hp), rfl⟩)
  · exact .inl (.inr ⟨p, mem_of_mem_take_newestFirst hp, rfl⟩)
  · exact .inr (.inl ⟨q, mem_of_mem_take_newestFirst hq, rfl⟩)
  · exact .inr (.inr ⟨q, mem_of_mem_take_newestFirst hq, rfl⟩)

/-! ## Identifiers -/

theorem head?_append {p s : String} {c : Char} (h : p.toList.head? = some c) :
    (p ++ s).toList.head? = some c := by
  rw [String.toList_append, List.head?_append, h]
  rfl

/-- The first character of an id tells the source of the matter. -/
def kindOf (matter : Matter) : Option Char := matter.id.toList.head?

section

variable {db : WorkDb rt} {m : Member}

theorem kindOf_taskMatter (t : WorkTask) : kindOf (taskMatter m t) = some 't' :=
  head?_append (p := "task:") rfl

theorem kindOf_feedbackMatter (f : EventFeedback) : kindOf (feedbackMatter db m f) = some 'e' :=
  head?_append (p := "event-feedback:") rfl

theorem kindOf_proposalMatter (p : ApprovalProposal) (handler label : String) :
    kindOf (proposalMatter db p handler label) = some 'a' :=
  head?_append (p := "approval-proposal:") rfl

theorem kindOf_procurementMatter (q : WorkQuote) (status handler label : String) :
    kindOf (procurementMatter db q status handler label) = some 's' :=
  head?_append (p := "supplier-quote:") rfl

theorem kindOf_memberQuoteMatter (q : WorkQuote) :
    kindOf (memberQuoteMatter db m q) = some 's' :=
  head?_append (p := "supplier-quote:") rfl

/-- Lists of matters of different kinds have different ids. -/
theorem nodup_append_of_kinds {xs ys : List Matter} (hxs : (xs.map Matter.id).Nodup)
    (hys : (ys.map Matter.id).Nodup) (h : ∀ x ∈ xs, ∀ y ∈ ys, kindOf x ≠ kindOf y) :
    ((xs ++ ys).map Matter.id).Nodup := by
  rw [List.map_append, List.nodup_append]
  refine ⟨hxs, hys, ?_⟩
  rintro id hx id' hy rfl
  obtain ⟨x, hxmem, rfl⟩ := List.mem_map.1 hx
  obtain ⟨y, hymem, heq⟩ := List.mem_map.1 hy
  exact h x hxmem y hymem (congrArg (fun s : String => s.toList.head?) heq.symm)

/-- Matters made of rows with different keys have different ids. -/
theorem nodup_ids_of_keys {α : Type} {rows : List α} {key : α → String} {matter : α → Matter}
    {s : String} (hkeys : (rows.map key).Nodup) (hid : ∀ r, (matter r).id = s ++ key r) :
    ((rows.map matter).map Matter.id).Nodup := by
  have hmap : (rows.map matter).map Matter.id = (rows.map key).map (s ++ ·) := by
    simp only [List.map_map]
    exact List.map_congr_left fun r _ => hid r
  rw [hmap]
  exact hkeys.map fun a b h => (String.append_right_inj s).1 h

/-! ## No matter twice -/

theorem taskRows_nodup (p : WorkTask → Bool) :
    (((activeTasks db m).filter p).map WorkTask.taskId).Nodup :=
  (take_newestFirst_nodup (filter_keys_nodup db.tasks _)).sublist (List.filter_sublist.map _)

theorem feedbackRows_nodup (p : EventFeedback → Bool) :
    (((memberFeedbacks db m).filter p).map EventFeedback.feedbackId).Nodup :=
  (take_newestFirst_nodup (filter_keys_nodup db.feedbacks _)).sublist (List.filter_sublist.map _)

theorem quoteRows_nodup : ((memberQuotes db m).map WorkQuote.id).Nodup :=
  take_newestFirst_nodup (filter_keys_nodup db.quotes _)

theorem waitingMatters_nodup : ((waitingMatters db m).map Matter.id).Nodup := by
  unfold waitingMatters
  refine nodup_append_of_kinds (nodup_append_of_kinds ?_ ?_ ?_) ?_ ?_
  · exact nodup_ids_of_keys (s := "task:") (taskRows_nodup _) fun _ => rfl
  · exact nodup_ids_of_keys (s := "event-feedback:") (feedbackRows_nodup _) fun _ => rfl
  · simp only [List.mem_map]
    rintro _ ⟨t, -, rfl⟩ _ ⟨f, -, rfl⟩
    rw [kindOf_taskMatter, kindOf_feedbackMatter]
    decide
  · exact nodup_ids_of_keys (s := "supplier-quote:") quoteRows_nodup fun _ => rfl
  · simp only [List.mem_append, List.mem_map]
    rintro _ (⟨t, -, rfl⟩ | ⟨f, -, rfl⟩) _ ⟨q, -, rfl⟩
    · rw [kindOf_taskMatter, kindOf_memberQuoteMatter]
      decide
    · rw [kindOf_feedbackMatter, kindOf_memberQuoteMatter]
      decide

/-- Two selections of rows that no row is in both of, as matters of one kind. -/
theorem nodup_ids_of_disjoint {α : Type} {xs ys : List α} {key : α → String}
    {matter matter' : α → Matter} {s : String} (hxs : (xs.map key).Nodup)
    (hys : (ys.map key).Nodup) (hdisjoint : ∀ x ∈ xs, ∀ y ∈ ys, key x ≠ key y)
    (hid : ∀ r, (matter r).id = s ++ key r) (hid' : ∀ r, (matter' r).id = s ++ key r) :
    ((xs.map matter ++ ys.map matter').map Matter.id).Nodup := by
  rw [List.map_append, List.nodup_append]
  refine ⟨nodup_ids_of_keys hxs hid, nodup_ids_of_keys hys hid', ?_⟩
  simp only [List.map_map, List.mem_map, Function.comp_apply]
  rintro _ ⟨x, hx, rfl⟩ _ ⟨y, hy, rfl⟩ heq
  rw [hid, hid'] at heq
  exact hdisjoint x hx y hy ((String.append_right_inj s).1 heq)

theorem proposalWorksets_nodup (isGov isFin : Bool) :
    ((((actionableProposalQueryset db m isGov isFin).take matterDisplayLimit).map
        (actionableMatter db) ++
      ((executableQueryset db).take matterDisplayLimit).map (executableMatter db)).map
        Matter.id).Nodup := by
  refine nodup_ids_of_disjoint (take_newestFirst_nodup (filter_keys_nodup _ _))
    (take_newestFirst_nodup (filter_keys_nodup _ _)) ?_
    (s := "approval-proposal:") (fun _ => rfl) fun _ => rfl
  intro p hp q hq hid
  have hp := List.mem_filter.1 (mem_of_mem_take_newestFirst hp)
  have hq := List.mem_filter.1 (mem_of_mem_take_newestFirst hq)
  -- one proposal is not submitted and approved at once
  obtain rfl := db.state.proposals.eq_of_pk hp.1 hq.1 hid
  have hsubmitted := (Bool.and_eq_true _ _ ▸ hp.2).1
  rw [decide_eq_true_eq] at hsubmitted
  have happroved := of_decide_eq_true hq.2
  rw [hsubmitted] at happroved
  cases happroved

theorem quoteWorksets_nodup :
    ((((receiptQueryset db).take matterDisplayLimit).map (receiptMatter db) ++
      ((paymentQueryset db).take matterDisplayLimit).map (paymentMatter db)).map
        Matter.id).Nodup := by
  refine nodup_ids_of_disjoint (take_newestFirst_nodup (filter_keys_nodup _ _))
    (take_newestFirst_nodup (filter_keys_nodup _ _)) ?_
    (s := "supplier-quote:") (fun _ => rfl) fun _ => rfl
  intro p hp q hq hid
  have hp := List.mem_filter.1 (mem_of_mem_take_newestFirst hp)
  have hq := List.mem_filter.1 (mem_of_mem_take_newestFirst hq)
  -- one receipt is not pending and accepted at once
  obtain rfl := db.quotes.eq_of_pk hp.1 hq.1 hid
  have hreceipt := hp.2
  have hpayment := hq.2
  unfold awaitsReceipt at hreceipt
  unfold awaitsPayment at hpayment
  simp only [Bool.and_eq_true, decide_eq_true_eq] at hreceipt hpayment
  rw [hreceipt.1.2] at hpayment
  cases hpayment.1.2

theorem kindOf_proposalMatters {ps qs : List ApprovalProposal} {x : Matter}
    (h : x ∈ ps.map (actionableMatter db) ++ qs.map (executableMatter db)) :
    kindOf x = some 'a' := by
  rcases List.mem_append.1 h with h | h
  · obtain ⟨p, -, rfl⟩ := List.mem_map.1 h
    exact kindOf_proposalMatter p _ _
  · obtain ⟨p, -, rfl⟩ := List.mem_map.1 h
    exact kindOf_proposalMatter p _ _

theorem kindOf_procurementMatters {ps qs : List WorkQuote} {x : Matter}
    (h : x ∈ ps.map (receiptMatter db) ++ qs.map (paymentMatter db)) : kindOf x = some 's' := by
  rcases List.mem_append.1 h with h | h
  · obtain ⟨q, -, rfl⟩ := List.mem_map.1 h
    exact kindOf_procurementMatter q _ _ _
  · obtain ⟨q, -, rfl⟩ := List.mem_map.1 h
    exact kindOf_procurementMatter q _ _ _

theorem kindOf_governanceMatters {w : GovernanceWorksets} {x : Matter}
    (h : x ∈ governanceMatters db w) : kindOf x = some 'a' ∨ kindOf x = some 's' := by
  rcases List.mem_append.1 h with h | h
  · exact .inl (kindOf_proposalMatters h)
  · exact .inr (kindOf_procurementMatters h)

theorem governanceMatters_nodup (now : Nat) (isGov isFin : Bool) :
    ((governanceMatters db (governanceWorksets db now m isGov isFin)).map Matter.id).Nodup := by
  unfold governanceMatters governanceWorksets
  refine nodup_append_of_kinds (proposalWorksets_nodup isGov isFin) quoteWorksets_nodup ?_
  intro x hx y hy
  rw [kindOf_proposalMatters hx, kindOf_procurementMatters hy]
  decide

theorem actionMatters_nodup (now : Nat) : ((actionMatters db now m).map Matter.id).Nodup := by
  unfold actionMatters
  refine nodup_append_of_kinds (nodup_append_of_kinds ?_ ?_ ?_) ?_ ?_
  · exact nodup_ids_of_keys (s := "task:") (taskRows_nodup _) fun _ => rfl
  · exact nodup_ids_of_keys (s := "event-feedback:") (feedbackRows_nodup _) fun _ => rfl
  · simp only [List.mem_map]
    rintro _ ⟨t, -, rfl⟩ _ ⟨f, -, rfl⟩
    rw [kindOf_taskMatter, kindOf_feedbackMatter]
    decide
  · split
    · exact governanceMatters_nodup now _ _
    · exact List.nodup_nil
  · simp only [List.mem_append, List.mem_map]
    rintro x hx y hy
    have hkind : kindOf y = some 'a' ∨ kindOf y = some 's' := by
      split at hy
      · exact kindOf_governanceMatters hy
      · cases hy
    rcases hx with ⟨t, -, rfl⟩ | ⟨f, -, rfl⟩
    · rw [kindOf_taskMatter]
      rcases hkind with h | h <;> rw [h] <;> decide
    · rw [kindOf_feedbackMatter]
      rcases hkind with h | h <;> rw [h] <;> decide

/-- **No matter stands twice** in the two lists. -/
theorem memberMatters_distinct (now : Nat) : (((buildMemberMatters db now m).actionRequired ++
    (buildMemberMatters db now m).waiting).map Matter.id).Nodup := by
  unfold buildMemberMatters
  simp only [List.map_append]
  rw [List.nodup_append]
  have haction := ((sortMatters_perm (actionMatters db now m)).map Matter.id).nodup_iff.2
    (actionMatters_nodup now)
  have hwaiting : ∀ p : Matter → Bool,
      ((sortMatters ((waitingMatters db m).filter p)).map Matter.id).Nodup := fun p =>
    ((sortMatters_perm _).map Matter.id).nodup_iff.2
      (waitingMatters_nodup.sublist (List.filter_sublist.map _))
  refine ⟨haction.sublist ((List.take_sublist _ _).map _),
    (hwaiting _).sublist ((List.take_sublist _ _).map _), ?_⟩
  rintro id hx id' hy rfl
  obtain ⟨x, hxmem, heqx⟩ := List.mem_map.1 hx
  obtain ⟨y, hymem, heqy⟩ := List.mem_map.1 hy
  have haction := (sortMatters_perm _).mem_iff.1 (List.mem_of_mem_take hxmem)
  have hnot := (List.mem_filter.1 ((sortMatters_perm _).mem_iff.1 (List.mem_of_mem_take hymem))).2
  -- the waiting list leaves out what requires action
  rw [heqy, ← heqx] at hnot
  simp only [Bool.not_eq_true', List.contains_eq_mem, decide_eq_false_iff_not] at hnot
  exact hnot (List.mem_map_of_mem haction)

/-! ## Which duties are shown -/

variable {now : Nat}

theorem shownTasks_length_le :
    ((activeTasks db m).filter needsAssignee).length ≤ (dutyTasks db m).length := by
  refine (List.subperm_of_subset ((taskRows_nodup _).of_map _) fun t ht => ?_).length_le
  obtain ⟨hactive, hneeds⟩ := List.mem_filter.1 ht
  exact mem_dutyTasks hactive hneeds

theorem shownFeedbacks_length_le :
    ((memberFeedbacks db m).filter fun f => !feedbackEnded f && needsMember m f).length ≤
      (dutyFeedbacks db m).length := by
  refine (List.subperm_of_subset ((feedbackRows_nodup _).of_map _) fun f hf => ?_).length_le
  obtain ⟨hmem, hneeds⟩ := List.mem_filter.1 hf
  rw [Bool.and_eq_true] at hneeds
  exact mem_dutyFeedbacks hmem hneeds.2

/-- With few duties nothing is cut from the list of what requires action. -/
theorem actionMatters_length_le (h : (duties db now m).length ≤ matterDisplayLimit) :
    (actionMatters db now m).length ≤ matterDisplayLimit := by
  have htasks := @shownTasks_length_le _ db m
  have hfeedbacks := @shownFeedbacks_length_le _ db m
  unfold duties mayGovern at h
  unfold actionMatters
  simp only [List.length_append, List.length_map] at h ⊢
  split
  · rename_i hmay
    rw [if_pos hmay] at h
    rw [(governanceMatters_perm (by omega)).length_eq]
    omega
  · rename_i hmay
    rw [if_neg hmay] at h
    simp only [List.length_nil] at h ⊢
    omega

theorem mem_actionRequired (h : (duties db now m).length ≤ matterDisplayLimit) {matter : Matter} :
    matter ∈ (buildMemberMatters db now m).actionRequired ↔ matter ∈ actionMatters db now m := by
  unfold buildMemberMatters
  simp only
  rw [List.take_of_length_le, (sortMatters_perm _).mem_iff]
  rw [(sortMatters_perm _).length_eq]
  exact actionMatters_length_le h

/-- The governance part of the list has every proposal and quote. -/
theorem mem_governancePart (h : (duties db now m).length ≤ matterDisplayLimit) {matter : Matter}
    (hmatter : matter ∈ if mayGovern db now m then governanceDuties db now m else []) :
    matter ∈ actionMatters db now m := by
  unfold actionMatters
  refine List.mem_append_right _ ?_
  unfold mayGovern at hmatter
  unfold duties mayGovern at h
  simp only [List.length_append, List.length_map] at h
  split
  · rename_i hmay
    rw [if_pos hmay] at h hmatter
    exact (governanceMatters_perm (by omega)).mem_iff.2 hmatter
  · rename_i hmay
    rw [if_neg hmay] at hmatter
    exact hmatter

theorem duties_shown (h : (duties db now m).length ≤ matterDisplayLimit)
    (hrecent : DutiesRecent db m) :
    ∀ matter ∈ duties db now m, matter ∈ (buildMemberMatters db now m).actionRequired := by
  intro matter hmatter
  rw [mem_actionRequired h]
  unfold duties at hmatter
  rcases List.mem_append.1 hmatter with hmatter | hmatter
  · unfold actionMatters
    refine List.mem_append_left _ ?_
    rcases List.mem_append.1 hmatter with hmatter | hmatter
    · obtain ⟨t, ht, rfl⟩ := List.mem_map.1 hmatter
      have hneeds := (List.mem_filter.1 ht).2
      rw [Bool.and_eq_true] at hneeds
      refine List.mem_append_left _ (List.mem_map.2 ⟨t, ?_, rfl⟩)
      exact List.mem_filter.2 ⟨hrecent.tasks t ht, hneeds.2⟩
    · obtain ⟨f, hf, rfl⟩ := List.mem_map.1 hmatter
      have hneeds := (List.mem_filter.1 hf).2
      refine List.mem_append_right _ (List.mem_map.2 ⟨f, ?_, rfl⟩)
      refine List.mem_filter.2 ⟨hrecent.feedbacks f hf, ?_⟩
      rw [not_feedbackEnded hneeds, hneeds]
      rfl
  · exact mem_governancePart h hmatter

/-- A task that is shown is one of the ten newest. -/
theorem task_recent {t : WorkTask} (ht : t ∈ dutyTasks db m)
    (h : taskMatter m t ∈ actionMatters db now m) : t ∈ activeTasks db m := by
  unfold actionMatters at h
  rcases List.mem_append.1 h with h | h
  · rcases List.mem_append.1 h with h | h
    · obtain ⟨t', ht', heq⟩ := List.mem_map.1 h
      have hid : t'.taskId = t.taskId :=
        (String.append_right_inj "task:").1 (congrArg Matter.id heq)
      have hactive := (List.mem_filter.1 ht').1
      rwa [db.tasks.eq_of_pk (mem_activeTasks hactive).1 (List.mem_filter.1 ht).1 hid] at hactive
    · obtain ⟨f, -, heq⟩ := List.mem_map.1 h
      have hkind := congrArg kindOf heq
      rw [kindOf_taskMatter, kindOf_feedbackMatter] at hkind
      exact absurd hkind (by decide)
  · split at h
    · have hkind := kindOf_governanceMatters h
      rw [kindOf_taskMatter] at hkind
      exact absurd hkind (by decide)
    · cases h

/-- A feedback that is shown is one of the ten newest. -/
theorem feedback_recent {f : EventFeedback} (hf : f ∈ dutyFeedbacks db m)
    (h : feedbackMatter db m f ∈ actionMatters db now m) : f ∈ memberFeedbacks db m := by
  unfold actionMatters at h
  rcases List.mem_append.1 h with h | h
  · rcases List.mem_append.1 h with h | h
    · obtain ⟨t, -, heq⟩ := List.mem_map.1 h
      have hkind := congrArg kindOf heq
      rw [kindOf_taskMatter, kindOf_feedbackMatter] at hkind
      exact absurd hkind (by decide)
    · obtain ⟨f', hf', heq⟩ := List.mem_map.1 h
      have hid : f'.feedbackId = f.feedbackId :=
        (String.append_right_inj "event-feedback:").1 (congrArg Matter.id heq)
      have hmine := (List.mem_filter.1 hf').1
      have hmem := (List.mem_filter.1 (mem_of_mem_take_newestFirst hmine)).1
      rwa [db.feedbacks.eq_of_pk hmem (List.mem_filter.1 hf).1 hid] at hmine
  · split at h
    · have hkind := kindOf_governanceMatters h
      rw [kindOf_feedbackMatter] at hkind
      exact absurd hkind (by decide)
    · cases h

end

/-- **When the work list is complete**, for a member with few duties. -/
theorem memberMatters_complete_iff (db : WorkDb rt) (now : Nat) (m : Member)
    (h : (duties db now m).length ≤ matterDisplayLimit) :
    MattersComplete db now m ↔ DutiesRecent db m := by
  constructor
  · intro hcomplete
    constructor
    · intro t ht
      have hduty : taskMatter m t ∈ duties db now m :=
        List.mem_append_left _ (List.mem_append_left _ (List.mem_map_of_mem ht))
      exact task_recent ht ((mem_actionRequired h).1 (hcomplete.shown _ hduty))
    · intro f hf
      have hduty : feedbackMatter db m f ∈ duties db now m :=
        List.mem_append_left _ (List.mem_append_right _ (List.mem_map_of_mem hf))
      exact feedback_recent hf ((mem_actionRequired h).1 (hcomplete.shown _ hduty))
  · exact fun hrecent => ⟨duties_shown h hrecent, memberMatters_distinct now⟩

/-! ## A member with many reviews pending -/

def assignee : Member := ⟨1, "m", none, "m", .active, []⟩

def taskOf (id : String) (status : TaskStatus) (createdAt : Nat) : WorkTask :=
  ⟨id, id, status, some 1, "low", createdAt, none, none⟩

/-- An older task in progress and ten newer ones that wait for their review. -/
def pendingTasks : List WorkTask :=
  taskOf "old" .inProgress 1 ::
    ["a", "b", "c", "d", "e", "f", "g", "h", "i", "j"].map fun id => taskOf id .pendingReview 2

theorem pendingTasks_keys : (pendingTasks.map WorkTask.taskId).Nodup := by decide

theorem pendingTasks_unkeyed :
    (pendingTasks.filterMap fun _ => (none : Option Unit)).Nodup := by decide

/-- A workspace with these tasks only. -/
def workspaceOf (tasks : Table WorkTask String Unit WorkTask.taskId fun _ => none) :
    WorkDb textRuntime where
  state := {
    roles := ⟨⟨Table.empty, Table.empty, Table.empty, Table.empty, [], Table.empty, Table.empty⟩,
      Table.empty, Table.empty, EventLedger.Journal.empty⟩
    applications := Table.empty
    rules := Table.empty
    proposals := Table.empty
    decisions := Table.empty
    snapshots := Table.empty
    ballots := Table.empty
    resolutions := Table.empty
    executions := Table.empty }
  tasks := tasks
  feedbacks := Table.empty
  quotes := Table.empty
  proposalUpdatedAt := fun _ => none
  resourceNames := []

def busyWorkspace : WorkDb textRuntime :=
  workspaceOf ⟨pendingTasks, pendingTasks_keys, pendingTasks_unkeyed⟩

/-- A workspace with one task in progress. -/
def quietWorkspace : WorkDb textRuntime :=
  workspaceOf ⟨[taskOf "old" .inProgress 1], List.nodup_singleton _, List.nodup_nil⟩

theorem memberMatters_complete_iff_quiet :
    (duties quietWorkspace 3 assignee).length ≤ matterDisplayLimit ∧
      MattersComplete quietWorkspace 3 assignee := by
  have hfew : (duties quietWorkspace 3 assignee).length ≤ matterDisplayLimit := by decide +kernel
  have hids : (activeTasks quietWorkspace assignee).map WorkTask.taskId = ["old"] ∧
      (dutyFeedbacks quietWorkspace assignee).length = 0 := by decide +kernel
  refine ⟨hfew, (memberMatters_complete_iff quietWorkspace 3 assignee hfew).2 ⟨?_, ?_⟩⟩
  · intro t ht
    have hmem := (List.mem_filter.1 ht).1
    obtain rfl := List.mem_singleton.1 hmem
    have hold : "old" ∈ (activeTasks quietWorkspace assignee).map WorkTask.taskId := by
      rw [hids.1]
      exact List.mem_singleton_self _
    obtain ⟨t', ht', hid⟩ := List.mem_map.1 hold
    rwa [quietWorkspace.tasks.eq_of_pk (mem_activeTasks ht').1 hmem hid] at ht'
  · intro f hf
    rw [List.length_eq_zero_iff.1 hids.2] at hf
    cases hf

/-- The task in progress is lost behind the tasks that wait for their review. -/
theorem memberMatters_loseTask : (duties busyWorkspace 3 assignee).length ≤ matterDisplayLimit ∧
    ¬ MattersComplete busyWorkspace 3 assignee := by
  have hrun : (duties busyWorkspace 3 assignee).length ≤ matterDisplayLimit ∧
      "old" ∉ (activeTasks busyWorkspace assignee).map WorkTask.taskId := by decide +kernel
  refine ⟨hrun.1, fun h => hrun.2 ?_⟩
  have hduty : taskOf "old" .inProgress 1 ∈ dutyTasks busyWorkspace assignee :=
    List.mem_filter.2 ⟨List.mem_cons_self, rfl⟩
  have hshown := h.shown (taskMatter assignee (taskOf "old" .inProgress 1))
    (List.mem_append_left _ (List.mem_append_left _ (List.mem_map_of_mem hduty)))
  exact List.mem_map_of_mem (f := WorkTask.taskId)
    (task_recent hduty ((mem_actionRequired hrun.1).1 hshown))

end LiveOs.Workspace
