import AutocadMcp.Agent.LocalApprovals
import AutocadMcp.Lib.Folds

/-!
# A local approval is decided once, while it is live

A row that is no longer pending never changes. A call either settles some pending rows, or records
a request, which settles the pending rows of its consent, or decides one pending row after all
checks of the core. So the requests of a consent take turns and each gets one decision at most.
-/

namespace AutocadMcp.LocalApproval

/-! ## What happens to the rows -/

/-- A pending row that was invalidated or has expired. -/
structure Settled (row row' : ApprovalRow) : Prop where
  before : row.status = .pending
  after : row'.status ≠ .pending
  decision : row'.decision = row.decision
  request : row'.request = row.request
  consentId : row'.consentId = row.consentId
  requestId : row'.approvalRequestId = row.approvalRequestId

/-- The row stays, or is settled. -/
def Ages (row row' : ApprovalRow) : Prop := row' = row ∨ Settled row row'

theorem Ages.trans {row row' row'' : ApprovalRow} (h : Ages row row') (h' : Ages row' row'') :
    Ages row row'' := by
  rcases h with rfl | h
  · exact h'
  · rcases h' with rfl | h'
    · exact Or.inr h
    · exact absurd h'.before h.after

/-- A row that is pending was pending before, and is the same. -/
theorem Ages.eq_of_pending {row row' : ApprovalRow} (h : Ages row row')
    (hpending : row'.status = .pending) : row' = row := by
  rcases h with h | h
  · exact h
  · exact absurd hpending h.after

theorem Ages.eq_of_settled {row row' : ApprovalRow} (h : Ages row row')
    (hsettled : row.status ≠ .pending) : row' = row := by
  rcases h with h | h
  · exact h
  · exact absurd h.before hsettled

theorem Ages.consentId {row row' : ApprovalRow} (h : Ages row row') :
    row'.consentId = row.consentId := by
  rcases h with rfl | h
  · rfl
  · exact h.consentId

theorem Ages.decision {row row' : ApprovalRow} (h : Ages row row') :
    row'.decision = row.decision := by
  rcases h with rfl | h
  · rfl
  · exact h.decision

/-- The table with some of its pending rows settled. -/
structure Settles (rows rows' : ApprovalTable) : Prop where
  absent : ∀ g, rows.get? g = none → rows'.get? g = none
  present : ∀ g row, rows.get? g = some row → ∃ row', rows'.get? g = some row' ∧ Ages row row'

variable {rows rows' rows'' : ApprovalTable}

theorem Settles.refl (rows : ApprovalTable) : Settles rows rows :=
  ⟨fun _ h => h, fun _ row h => ⟨row, h, Or.inl rfl⟩⟩

theorem Settles.trans (h : Settles rows rows') (h' : Settles rows' rows'') :
    Settles rows rows'' := by
  constructor
  · intro g hg
    exact h'.absent g (h.absent g hg)
  · intro g row hg
    obtain ⟨row', hg', hages⟩ := h.present g row hg
    obtain ⟨row'', hg'', hages'⟩ := h'.present g row' hg'
    exact ⟨row'', hg'', hages.trans hages'⟩

/-- A row of the settled table is an aged row of the first. -/
theorem Settles.origin (h : Settles rows rows') {g : String} {row' : ApprovalRow}
    (hg : rows'.get? g = some row') : ∃ row, rows.get? g = some row ∧ Ages row row' := by
  rcases hrow : rows.get? g with _ | row
  · rw [h.absent g hrow] at hg
    cases hg
  · obtain ⟨row'', hg', hages⟩ := h.present g row hrow
    rw [hg, Option.some_inj] at hg'
    exact ⟨row, rfl, hg' ▸ hages⟩

theorem ages_settle {status : ApprovalStatus} (hstatus : status ≠ .pending) (now : String)
    (p : ApprovalRow → Bool) (row : ApprovalRow) : Ages row (settle status now p row) := by
  unfold settle
  by_cases h : row.status = .pending ∧ p row = true
  · rw [if_pos h]
    exact Or.inr ⟨h.1, hstatus, rfl, rfl, rfl, rfl⟩
  · rw [if_neg h]
    exact Or.inl rfl

theorem settles_settle {status : ApprovalStatus} (hstatus : status ≠ .pending) (now : String)
    (p : ApprovalRow → Bool)
    {hkey : ∀ row, (settle status now p row).approvalRequestDigest = row.approvalRequestDigest} :
    Settles rows (rows.mapRows (settle status now p) hkey) := by
  constructor
  · intro g hg
    rw [Table.get?_mapRows, hg]
    rfl
  · intro g row hg
    refine ⟨_, ?_, ages_settle hstatus now p row⟩
    rw [Table.get?_mapRows, hg]
    rfl

section

variable {T : ApprovalClock} {cfg : ApprovalConfig} {a : ApprovalCore} {now : ℤ}

theorem settles_invalidatePending : Settles rows (invalidatePending T rows now) :=
  settles_settle (by decide) _ _

theorem settles_expire : Settles rows (expire T rows now) := settles_settle (by decide) _ _

theorem settles_publishApprovals : Settles rows (publishApprovals T cfg a rows now) := by
  unfold publishApprovals
  by_cases hcurrent :
      (cfg.hasIdentityStore && !identityCurrent a (expire T rows now)) = true
  · simp only [hcurrent, if_true]
    exact settles_expire.trans settles_invalidatePending
  · simp only [hcurrent]
    exact settles_expire

/-! ## What one call can do -/

/-- A request that was not there has been recorded, and no other row of its consent is pending. -/
structure Records (message : ApprovalRequest) (rows rows' : ApprovalTable) : Prop where
  absent : rows.get? message.approvalRequestDigest = none
  added : ∃ row, rows'.get? message.approvalRequestDigest = some row ∧ row.request = message ∧
    row.consentId = message.consentId ∧ row.approvalRequestId = message.approvalRequestId ∧
    row.decision = none
  others_absent : ∀ g, g ≠ message.approvalRequestDigest → rows.get? g = none → rows'.get? g = none
  others : ∀ g row, g ≠ message.approvalRequestDigest → rows.get? g = some row →
    ∃ row', rows'.get? g = some row' ∧ Ages row row' ∧
      (row.consentId = message.consentId → row'.status ≠ .pending)

/-- The decision of a pending row has been stored, and other rows may have been settled. -/
structure Decides (g : String) (row : ApprovalRow) (d : ApprovalDecision)
    (rows rows' : ApprovalTable) : Prop where
  pending : rows.get? g = some row ∧ row.status = .pending
  decided : ∃ row', rows'.get? g = some row' ∧ row'.status ≠ .pending ∧ row'.decision = some d ∧
    row'.request = row.request ∧ row'.consentId = row.consentId ∧
    row'.approvalRequestId = row.approvalRequestId
  others_absent : ∀ g', g' ≠ g → rows.get? g' = none → rows'.get? g' = none
  others : ∀ g' row, g' ≠ g → rows.get? g' = some row →
    ∃ row', rows'.get? g' = some row' ∧ Ages row row'

theorem Records.settles {message : ApprovalRequest} (h : Records message rows rows')
    (h' : Settles rows' rows'') : Records message rows rows'' := by
  refine ⟨h.absent, ?_, ?_, ?_⟩
  · obtain ⟨row, hrow, hrequest, hconsent, hid, hnone⟩ := h.added
    obtain ⟨row', hrow', hages⟩ := h'.present _ row hrow
    refine ⟨row', hrow', ?_, hages.consentId.trans hconsent, ?_, hages.decision.trans hnone⟩
    · rcases hages with rfl | hages
      · exact hrequest
      · exact hages.request.trans hrequest
    · rcases hages with rfl | hages
      · exact hid
      · exact hages.requestId.trans hid
  · intro g hne hg
    exact h'.absent g (h.others_absent g hne hg)
  · intro g row hne hg
    obtain ⟨row', hrow', hages, hconsent⟩ := h.others g row hne hg
    obtain ⟨row'', hrow'', hages'⟩ := h'.present g row' hrow'
    refine ⟨row'', hrow'', hages.trans hages', fun hsame => ?_⟩
    rw [hages'.eq_of_settled (hconsent hsame)]
    exact hconsent hsame

theorem Decides.of_settles {g : String} {row : ApprovalRow} {d : ApprovalDecision}
    (h : Settles rows rows') (h' : Decides g row d rows' rows'') : Decides g row d rows rows'' := by
  obtain ⟨hrow, hpending⟩ := h'.pending
  obtain ⟨original, horiginal, hages⟩ := h.origin hrow
  refine ⟨⟨?_, hpending⟩, h'.decided, ?_, ?_⟩
  · rw [horiginal, hages.eq_of_pending hpending]
  · intro g' hne hg'
    exact h'.others_absent g' hne (h.absent g' hg')
  · intro g' row hne hg'
    obtain ⟨row', hrow', hages⟩ := h.present g' row hg'
    obtain ⟨row'', hrow'', hages'⟩ := h'.others g' row' hne hrow'
    exact ⟨row'', hrow'', hages.trans hages'⟩

/-- What the core has checked when it stores a decision. -/
structure Live (T : ApprovalClock) (cfg : ApprovalConfig) (a : ApprovalCore) (id : String)
    (decision : Verdict) (clock : SubmitClock) (row : ApprovalRow) (d : ApprovalDecision) :
    Prop where
  asked : row.approvalRequestId = id
  unpaused : a.paused = false
  unexpired : clock.decidedAt < T.fromisoformat row.request.expiresAt ∧
    clock.recordedAt < T.fromisoformat row.request.expiresAt
  addressed : ∃ connection identity, a.connection = some connection ∧
    a.identity = some identity ∧ Addressed cfg connection identity row.request
  bound : d.binding = row.request.binding
  digest : d.approvalRequestDigest = row.request.approvalRequestDigest
  verdict : d.decision = decision

/-- The columns of a row are those of its request. -/
def Filed (rows : ApprovalTable) : Prop :=
  ∀ g row, rows.get? g = some row → row.request.approvalRequestDigest = g ∧
    row.consentId = row.request.consentId ∧ row.approvalRequestId = row.request.approvalRequestId

theorem Filed.settles (hfiled : Filed rows) (h : Settles rows rows') : Filed rows' := by
  intro g row' hrow'
  obtain ⟨row, hrow, hages⟩ := h.origin hrow'
  rcases hages with rfl | hages
  · exact hfiled g row' hrow
  · rw [hages.request, hages.consentId, hages.requestId]
    exact hfiled g row hrow

/-- The three effects of a call on the table and on what was sent. -/
inductive Effect (T : ApprovalClock) (cfg : ApprovalConfig) (a : ApprovalCore) :
    ApprovalCall → ApprovalCore → Prop
  | quiet {call : ApprovalCall} {a' : ApprovalCore} (hrows : Settles a.rows a'.rows)
      (hsent : ∀ d ∈ a'.sent, d ∈ a.sent ∨ ∃ g row, a.rows.get? g = some row ∧
        row.decision = some d) (hkept : ∀ d ∈ a.sent, d ∈ a'.sent) : Effect T cfg a call a'
  | recorded {websocket : ℕ} {message : ApprovalRequest} {now : ℤ} {a' : ApprovalCore}
      (hrows : Records message a.rows a'.rows) (hsent : a'.sent = a.sent) :
      Effect T cfg a (.request websocket message now) a'
  | decided {id : String} {decision : Verdict} {clock : SubmitClock}
      {proof : Except ApprovalFailure String} {g : String} {row : ApprovalRow}
      {d : ApprovalDecision} {a' : ApprovalCore} (hrows : Decides g row d a.rows a'.rows)
      (hlive : Live T cfg a id decision clock row d) (hsent : a'.sent = a.sent ++ [d]) :
      Effect T cfg a (.submit id decision clock proof) a'

theorem Effect.still {call : ApprovalCall} {a' : ApprovalCore} (hrows : Settles a.rows a'.rows)
    (hsent : a'.sent = a.sent) : Effect T cfg a call a' :=
  .quiet hrows (fun _ hd => Or.inl (hsent ▸ hd)) fun _ hd => hsent ▸ hd

/-- A request that is recorded is new, or was there and leaves the table alone. -/
theorem recordRequest_ok {message : ApprovalRequest} {stored : StoredApproval} {duplicate : Bool}
    (h : recordRequest T rows now message = .ok ((stored, duplicate), rows')) :
    (duplicate = true ∧ rows' = rows ∧ ∃ row,
        rows.get? message.approvalRequestDigest = some row ∧ stored.decision = row.decision) ∨
      duplicate = false ∧ Records message rows rows' := by
  unfold recordRequest at h
  rcases hexisting : rows.get? message.approvalRequestDigest with _ | existing
  · right
    rw [hexisting] at h
    dsimp only at h
    set superseded := rows.mapRows (settle .invalidated (T.isoformat now) fun row =>
      row.consentId = message.consentId) fun _ => settle_digest .. with hsuperseded
    rcases hinsert : superseded.insert (pendingRow T now message) with _ | inserted
    · rw [hinsert] at h
      cases h
    · rw [hinsert] at h
      cases h
      have hsettles : Settles rows superseded := settles_settle (by decide) _ _
      refine ⟨rfl, hexisting, ?_, ?_, ?_⟩
      · exact ⟨_, Table.get?_insert_self hinsert, rfl, rfl, rfl, rfl⟩
      · intro g hne hg
        have hne' : (pendingRow T now message).approvalRequestDigest ≠ g := Ne.symm hne
        rw [Table.get?_insert hinsert, if_neg hne']
        exact hsettles.absent g hg
      · intro g row hne hg
        obtain ⟨row', hrow', hages⟩ := hsettles.present g row hg
        refine ⟨row', ?_, hages, ?_⟩
        · have hne' : (pendingRow T now message).approvalRequestDigest ≠ g := Ne.symm hne
          rw [Table.get?_insert hinsert, if_neg hne']
          exact hrow'
        · intro hconsent hpending
          -- a pending row of the consent was settled by the update
          have hsame := hages.eq_of_pending hpending
          subst hsame
          rw [hsuperseded, Table.get?_mapRows, hg, Option.map_some, Option.some_inj] at hrow'
          rw [settle, if_pos ⟨hpending, by simpa using hconsent⟩] at hrow'
          rw [← hrow'] at hpending
          cases hpending
  · left
    rw [hexisting] at h
    obtain ⟨read, hread, h⟩ := bind_eq_ok.mp h
    obtain ⟨_, _, h⟩ := bind_eq_ok.mp h
    obtain ⟨_, _, hread⟩ := bind_eq_ok.mp hread
    cases hread
    cases h
    exact ⟨rfl, rfl, existing, rfl, rfl⟩

theorem request_effect (websocket : ℕ) (message : ApprovalRequest) (now : ℤ) :
    Effect T cfg a (.request websocket message now)
      (handleApprovalRequest T cfg a websocket message now).2 := by
  unfold handleApprovalRequest
  rcases a.connection with _ | connection
  · exact .still (Settles.refl _) rfl
  dsimp only
  by_cases henabled :
      ¬ (cfg.localApprovalEnabled ∧ cfg.hasIdentityStore ∧ websocket = connection.websocket)
  · rw [if_pos henabled]
    exact .still (Settles.refl _) rfl
  rw [if_neg henabled]
  rcases hidentity : a.identity with _ | identity
  · exact .still (Settles.refl _) rfl
  dsimp only
  by_cases haddressed : ¬ Addressed cfg connection identity message
  · rw [if_pos haddressed]
    exact .still (settles_invalidatePending.trans settles_publishApprovals) rfl
  rw [if_neg haddressed]
  rcases hrecord : recordRequest T a.rows now message with e | ⟨⟨stored, duplicate⟩, rows'⟩
  · exact .still (Settles.refl _) rfl
  dsimp only
  rcases recordRequest_ok hrecord with ⟨rfl, rfl, row, hrow, hdecision⟩ | ⟨rfl, hrecords⟩
  · by_cases hpaused : a.paused = true
    · rw [if_pos hpaused]
      exact .still (settles_invalidatePending.trans settles_publishApprovals) rfl
    · rw [if_neg hpaused]
      rcases hsent : stored.decision with _ | decision
      · exact .still settles_publishApprovals rfl
      · dsimp only
        by_cases hsession : decision.sessionId ≠ connection.sessionId
        · rw [if_pos hsession]
          exact .still (Settles.refl _) rfl
        · rw [if_neg hsession]
          refine .quiet (Settles.refl _) ?_ fun d hd => List.mem_append_left _ hd
          intro d hd
          rcases List.mem_append.mp hd with hd | hd
          · exact Or.inl hd
          · rw [List.mem_singleton.mp hd]
            exact Or.inr ⟨_, row, hrow, hdecision.symm.trans hsent⟩
  · by_cases hpaused : a.paused = true
    · rw [if_pos hpaused]
      exact .recorded (hrecords.settles
        (settles_invalidatePending.trans settles_publishApprovals)) rfl
    · rw [if_neg hpaused]
      exact .recorded (hrecords.settles settles_publishApprovals) rfl

theorem latest_some {id : String} {row : ApprovalRow} (h : latest rows id = some row) :
    row ∈ rows.rows ∧ row.approvalRequestId = id := by
  have hmem : row ∈ rows.rows.filter fun row => row.approvalRequestId = id := by
    refine mem_of_foldl_some ?_ h
    intro best row
    rcases best with _ | b
    · exact Or.inl rfl
    · dsimp only
      split
      · exact Or.inl rfl
      · exact Or.inr rfl
  rw [List.mem_filter, decide_eq_true_eq] at hmem
  exact hmem

theorem readRow_ok {row : ApprovalRow} {stored : StoredApproval}
    (h : readRow T now row = .ok stored) :
    now < T.fromisoformat row.request.expiresAt ∧
      stored = ⟨row.request, row.status, row.decision⟩ := by
  obtain ⟨_, hcheck, h⟩ := bind_eq_ok.mp h
  cases h
  rw [check_eq_ok, isExpired, decide_eq_false_iff_not, not_le] at hcheck
  exact ⟨hcheck, rfl⟩

/-- A decision is stored in a pending row that it repeats, or it was there. -/
theorem recordDecision_ok {d : ApprovalDecision} {stored : StoredApproval} {duplicate : Bool}
    (h : recordDecision T rows now d = .ok ((stored, duplicate), rows')) :
    (duplicate = true ∧ rows' = rows) ∨ duplicate = false ∧ ∃ row,
      now < T.fromisoformat row.request.expiresAt ∧ d.binding = row.request.binding ∧
        Decides d.approvalRequestDigest row d rows rows' := by
  unfold recordDecision at h
  rcases hrow : rows.get? d.approvalRequestDigest with _ | row
  · rw [hrow] at h
    cases h
  rw [hrow] at h
  obtain ⟨read, hread, h⟩ := bind_eq_ok.mp h
  obtain ⟨hunexpired, rfl⟩ := readRow_ok hread
  dsimp only at h
  by_cases hpending : row.status = .pending
  · right
    rw [if_neg (not_not_intro hpending)] at h
    obtain ⟨_, hbinding, h⟩ := bind_eq_ok.mp h
    cases h
    refine ⟨rfl, row, hunexpired, check_eq_ok.mp hbinding, ⟨hrow, hpending⟩, ?_, ?_, ?_⟩
    · refine ⟨markDecided d (T.isoformat now) row, ?_, ?_⟩
      · rw [Table.get?_modify, if_pos rfl, hrow]
        rfl
      · rw [markDecided, if_pos hpending]
        refine ⟨?_, rfl, rfl, rfl, rfl⟩
        cases d.decision <;> exact nofun
    · intro g' hne hg'
      rw [Table.get?_modify, if_neg hne]
      exact hg'
    · intro g' row' hne hg'
      refine ⟨row', ?_, Or.inl rfl⟩
      rw [Table.get?_modify, if_neg hne]
      exact hg'
  · left
    rw [if_pos hpending] at h
    obtain ⟨_, _, h⟩ := bind_eq_ok.mp h
    cases h
    exact ⟨rfl, rfl⟩

/-- The rest of a submission from the stored request on, in a table that was swept. -/
theorem decideStored_effect {connection : Connection} {row : ApprovalRow} {id : String}
    {decision : Verdict} {clock : SubmitClock} {proof : Except ApprovalFailure String}
    (hfiled : Filed rows) (hswept : Settles a.rows rows) (hmem : row ∈ rows.rows)
    (hid : row.approvalRequestId = id) (hpaused : a.paused = false)
    (hconnection : a.connection = some connection) :
    Effect T cfg a (.submit id decision clock proof)
      (decideStored T cfg a connection ⟨row.request, row.status, row.decision⟩ rows decision clock
        proof).2 := by
  unfold decideStored
  by_cases hpending : row.status ≠ .pending
  · rw [if_pos hpending]
    exact .still hswept rfl
  rw [if_neg hpending]
  rcases hidentity : a.identity with _ | identity
  · exact .still hswept rfl
  dsimp only
  by_cases haddressed : ¬ Addressed cfg connection identity row.request
  · rw [if_pos haddressed]
    exact .still (hswept.trans (settles_invalidatePending.trans settles_publishApprovals)) rfl
  rw [if_neg haddressed]
  by_cases hexpired : T.fromisoformat row.request.expiresAt ≤ clock.decidedAt
  · rw [if_pos hexpired]
    exact .still (hswept.trans (settles_expire.trans settles_publishApprovals)) rfl
  rw [if_neg hexpired]
  rcases proof with e | proof
  · exact .still hswept rfl
  dsimp only
  set message := decisionMessage connection row.request decision (a.sequence + 1)
    (T.isoformat clock.decidedAt) proof with hmessage
  rcases hrecord : recordDecision T rows clock.recordedAt message with
    e | ⟨⟨stored, duplicate⟩, recorded⟩
  · exact .still hswept rfl
  dsimp only
  rcases recordDecision_ok hrecord with ⟨rfl, rfl⟩ | ⟨rfl, found, hunexpired, hbinding, hdecides⟩
  · exact .still hswept rfl
  -- the row that the store finds by the digest is the row that was found by the request id
  have hrow : rows.get? row.approvalRequestDigest = some row := Table.get?_of_mem hmem
  have hdigest : message.approvalRequestDigest = row.approvalRequestDigest :=
    (hfiled _ row hrow).1
  have hsame : found = row := by
    have hfound := hdecides.pending.1
    rw [hdigest, hrow, Option.some_inj] at hfound
    exact hfound.symm
  subst hsame
  refine .decided (hdecides.of_settles hswept) ?_ rfl
  exact ⟨hid, hpaused, ⟨not_le.mp hexpired, hunexpired⟩,
    ⟨connection, identity, hconnection, hidentity, not_not.mp haddressed⟩, hbinding, rfl, rfl⟩

theorem submit_effect (hfiled : Filed a.rows) (id : String) (decision : Verdict)
    (clock : SubmitClock) (proof : Except ApprovalFailure String) :
    Effect T cfg a (.submit id decision clock proof)
      (submitApprovalDecision T cfg a id decision clock proof).2 := by
  unfold submitApprovalDecision
  by_cases henabled : ¬ (cfg.localApprovalEnabled ∧ cfg.hasIdentityStore)
  · rw [if_pos henabled]
    exact .still (Settles.refl _) rfl
  rw [if_neg henabled]
  by_cases hpaused : a.paused = true
  · rw [if_pos hpaused]
    exact .still (Settles.refl _) rfl
  rw [if_neg hpaused]
  rcases hconnection : a.connection with _ | connection
  · exact .still (Settles.refl _) rfl
  dsimp only
  rcases hlatest : latest (expire T a.rows clock.sweptAt) id with _ | row
  · exact .still settles_expire rfl
  dsimp only
  rcases hread : readRow T clock.sweptAt row with e | stored
  · exact .still settles_expire rfl
  obtain ⟨_, rfl⟩ := readRow_ok hread
  obtain ⟨hmem, hid⟩ := latest_some hlatest
  exact decideStored_effect (hfiled.settles settles_expire) settles_expire hmem hid
    (Bool.not_eq_true _ ▸ hpaused) hconnection

/-- What one call of the core does to the table and to what was sent. -/
theorem step_effect (hfiled : Filed a.rows) (call : ApprovalCall) :
    Effect T cfg a call (step T cfg a call) := by
  cases call with
  | request websocket message now => exact request_effect websocket message now
  | submit id decision clock proof => exact submit_effect hfiled id decision clock proof
  | setPaused paused now =>
      refine .still ?_ rfl
      cases paused with
      | true => exact settles_invalidatePending.trans settles_publishApprovals
      | false => exact settles_publishApprovals
  | welcomed connection now => exact .still settles_publishApprovals rfl
  | disconnected now => exact .still settles_publishApprovals rfl
  | identityChanged identity => exact .still (Settles.refl _) rfl
  | restarted paused now => exact .still settles_publishApprovals rfl
  | revoked now => exact .still settles_invalidatePending rfl
  | published now => exact .still settles_publishApprovals rfl
  | swept now => exact .still settles_expire rfl

/-! ## What every run keeps -/

/-- The decision that is stored for a digest. -/
def decisionOf (a : ApprovalCore) (g : String) : Option ApprovalDecision :=
  (a.rows.get? g).bind ApprovalRow.decision

theorem decisionOf_some {g : String} {d : ApprovalDecision} :
    decisionOf a g = some d ↔ ∃ row, a.rows.get? g = some row ∧ row.decision = some d :=
  Option.bind_eq_some_iff

structure Sound (a : ApprovalCore) : Prop where
  filed : Filed a.rows
  undecided : ∀ g row, a.rows.get? g = some row → row.status = .pending → row.decision = none
  digest : ∀ g d, decisionOf a g = some d → d.approvalRequestDigest = g
  sent : ∀ d, d ∈ a.sent ↔ decisionOf a d.approvalRequestDigest = some d
  onePending : ∀ g g' row row', a.rows.get? g = some row → a.rows.get? g' = some row' →
    row.status = .pending → row'.status = .pending → row.consentId = row'.consentId → g = g'

/-- What becomes of a row in one step or in many. -/
structure Follows (row row' : ApprovalRow) : Prop where
  consentId : row'.consentId = row.consentId
  settled : row.status ≠ .pending → row' = row

theorem Ages.follows {row row' : ApprovalRow} (h : Ages row row') : Follows row row' :=
  ⟨h.consentId, h.eq_of_settled⟩

/-- No row is lost, and every row follows from the one before. -/
def Succeeds (a a' : ApprovalCore) : Prop :=
  ∀ g row, a.rows.get? g = some row → ∃ row', a'.rows.get? g = some row' ∧ Follows row row'

theorem Effect.succeeds {call : ApprovalCall} {a' : ApprovalCore} (h : Effect T cfg a call a') :
    Succeeds a a' := by
  intro g row hrow
  cases h with
  | quiet hrows hsent hkept =>
      obtain ⟨row', hrow', hages⟩ := hrows.present g row hrow
      exact ⟨row', hrow', hages.follows⟩
  | recorded hrows hsent =>
      have hne : g ≠ _ := fun heq => by
        rw [heq, hrows.absent] at hrow
        cases hrow
      obtain ⟨row', hrow', hages, _⟩ := hrows.others g row hne hrow
      exact ⟨row', hrow', hages.follows⟩
  | @decided _ _ _ _ decidedDigest decidedRow d _ hrows hlive hsent =>
      by_cases hne : g = decidedDigest
      · subst hne
        obtain ⟨hfound, hpending⟩ := hrows.pending
        obtain ⟨row', hrow', _, _, _, hconsent, _⟩ := hrows.decided
        rw [hrow, Option.some_inj] at hfound
        subst hfound
        exact ⟨row', hrow', hconsent, fun hsettled => absurd hpending hsettled⟩
      · obtain ⟨row', hrow', hages⟩ := hrows.others g row hne hrow
        exact ⟨row', hrow', hages.follows⟩

theorem Succeeds.trans {a' a'' : ApprovalCore} (h : Succeeds a a') (h' : Succeeds a' a'') :
    Succeeds a a'' := by
  intro g row hrow
  obtain ⟨row', hrow', hfollows⟩ := h g row hrow
  obtain ⟨row'', hrow'', hfollows'⟩ := h' g row' hrow'
  refine ⟨row'', hrow'', hfollows'.consentId.trans hfollows.consentId, fun hsettled => ?_⟩
  have hsame := hfollows.settled hsettled
  subst hsame
  exact hfollows'.settled hsettled

/-- A decision that is stored stays. -/
theorem Succeeds.decisionOf {a' : ApprovalCore} (h : Succeeds a a') (hsound : Sound a) {g : String}
    {d : ApprovalDecision} (hd : decisionOf a g = some d) :
    LocalApproval.decisionOf a' g = some d := by
  obtain ⟨row, hrow, hdecision⟩ := decisionOf_some.mp hd
  obtain ⟨row', hrow', hfollows⟩ := h g row hrow
  have hsettled : row.status ≠ .pending := by
    intro hpending
    rw [hsound.undecided g row hrow hpending] at hdecision
    cases hdecision
  rw [hfollows.settled hsettled] at hrow'
  exact decisionOf_some.mpr ⟨row, hrow', hdecision⟩

/-- A request that was not there, in the table after it was recorded. -/
structure Added (message : ApprovalRequest) (a a' : ApprovalCore) (g : String)
    (row' : ApprovalRow) : Prop where
  absent : a.rows.get? g = none
  digest : g = message.approvalRequestDigest
  request : row'.request = message
  consentId : row'.consentId = message.consentId
  requestId : row'.approvalRequestId = message.approvalRequestId
  undecided : row'.decision = none
  alone : ∀ g' row, g' ≠ g → a'.rows.get? g' = some row → row.consentId = row'.consentId →
    row.status ≠ .pending

/-- A row that was pending, with the decision that has been stored and sent. -/
structure Decided (a a' : ApprovalCore) (row row' : ApprovalRow) (d : ApprovalDecision) :
    Prop where
  pending : row.status = .pending
  settled : row'.status ≠ .pending
  decision : row'.decision = some d
  request : row'.request = row.request
  consentId : row'.consentId = row.consentId
  requestId : row'.approvalRequestId = row.approvalRequestId
  sent : a'.sent = a.sent ++ [d]

/-- Where a row of the table after a call comes from. -/
inductive Origin (T : ApprovalClock) (cfg : ApprovalConfig) (a : ApprovalCore) :
    ApprovalCall → ApprovalCore → String → ApprovalRow → Prop
  | aged {call : ApprovalCall} {a' : ApprovalCore} {g : String} {row row' : ApprovalRow}
      (hrow : a.rows.get? g = some row) (hages : Ages row row') : Origin T cfg a call a' g row'
  | added {websocket : ℕ} {message : ApprovalRequest} {now : ℤ} {a' : ApprovalCore} {g : String}
      {row' : ApprovalRow} (hadded : Added message a a' g row') :
      Origin T cfg a (.request websocket message now) a' g row'
  | decided {id : String} {decision : Verdict} {clock : SubmitClock}
      {proof : Except ApprovalFailure String} {d : ApprovalDecision} {a' : ApprovalCore}
      {g : String} {row row' : ApprovalRow} (hrow : a.rows.get? g = some row)
      (hdecided : Decided a a' row row' d) (hlive : Live T cfg a id decision clock row d) :
      Origin T cfg a (.submit id decision clock proof) a' g row'

theorem Effect.origin {call : ApprovalCall} {a' : ApprovalCore} (h : Effect T cfg a call a')
    {g : String} {row' : ApprovalRow} (hrow' : a'.rows.get? g = some row') :
    Origin T cfg a call a' g row' := by
  cases h with
  | quiet hrows hsent hkept =>
      obtain ⟨row, hrow, hages⟩ := hrows.origin hrow'
      exact .aged hrow hages
  | @recorded _ message _ _ hrows hsent =>
      by_cases hg : g = message.approvalRequestDigest
      · obtain ⟨row, hrow, hrequest, hconsent, hid, hnone⟩ := hrows.added
        rw [← hg, hrow', Option.some_inj] at hrow
        subst hrow
        refine .added ⟨hg ▸ hrows.absent, hg, hrequest, hconsent, hid, hnone, ?_⟩
        intro g' row'' hne hrow'' hsame
        rw [hg] at hne
        rcases hbefore : a.rows.get? g' with _ | row
        · rw [hrows.others_absent g' hne hbefore] at hrow''
          cases hrow''
        · obtain ⟨row₁, hrow₁, hages, hsettled⟩ := hrows.others g' row hne hbefore
          rw [hrow'', Option.some_inj] at hrow₁
          subst hrow₁
          exact hsettled (hages.consentId.symm.trans (hsame.trans hconsent))
      · rcases hbefore : a.rows.get? g with _ | row
        · rw [hrows.others_absent g hg hbefore] at hrow'
          cases hrow'
        · obtain ⟨row₁, hrow₁, hages, _⟩ := hrows.others g row hg hbefore
          rw [hrow', Option.some_inj] at hrow₁
          subst hrow₁
          exact .aged hbefore hages
  | @decided _ _ _ _ decidedDigest row d _ hrows hlive hsent =>
      by_cases hg : g = decidedDigest
      · subst hg
        obtain ⟨row₁, hrow₁, hsettled, hdecision, hrequest, hconsent, hid⟩ := hrows.decided
        rw [hrow', Option.some_inj] at hrow₁
        subst hrow₁
        obtain ⟨hrow, hpending⟩ := hrows.pending
        exact .decided hrow ⟨hpending, hsettled, hdecision, hrequest, hconsent, hid, hsent⟩ hlive
      · rcases hbefore : a.rows.get? g with _ | row
        · rw [hrows.others_absent g hg hbefore] at hrow'
          cases hrow'
        · obtain ⟨row₁, hrow₁, hages⟩ := hrows.others g row hg hbefore
          rw [hrow', Option.some_inj] at hrow₁
          subst hrow₁
          exact .aged hbefore hages

theorem Effect.sent {call : ApprovalCall} {a' : ApprovalCore} (h : Effect T cfg a call a') :
    ∀ d ∈ a.sent, d ∈ a'.sent := by
  intro d hd
  cases h with
  | quiet hrows hsent hkept => exact hkept d hd
  | recorded hrows hsent => exact hsent ▸ hd
  | decided hrows hlive hsent =>
      rw [hsent]
      exact List.mem_append_left _ hd

theorem Effect.sound {call : ApprovalCall} {a' : ApprovalCore} (h : Effect T cfg a call a')
    (hsound : Sound a) : Sound a' := by
  have hsucceeds := h.succeeds
  have hdigest : ∀ g d, decisionOf a' g = some d → d.approvalRequestDigest = g := by
    intro g d hd
    obtain ⟨row', hrow', hdecision⟩ := decisionOf_some.mp hd
    cases h.origin hrow' with
    | aged hrow hages =>
        exact hsound.digest g d
          (decisionOf_some.mpr ⟨_, hrow, hages.decision.symm.trans hdecision⟩)
    | added hadded =>
        rw [hadded.undecided] at hdecision
        cases hdecision
    | decided hrow hdecided hlive =>
        rw [hdecided.decision, Option.some_inj] at hdecision
        rw [← hdecision, hlive.digest]
        exact (hsound.filed g _ hrow).1
  constructor
  · intro g row' hrow'
    cases h.origin hrow' with
    | aged hrow hages =>
        rcases hages with rfl | hages
        · exact hsound.filed g row' hrow
        · rw [hages.request, hages.consentId, hages.requestId]
          exact hsound.filed g _ hrow
    | added hadded =>
        rw [hadded.request]
        exact ⟨hadded.digest.symm, hadded.consentId, hadded.requestId⟩
    | decided hrow hdecided hlive =>
        rw [hdecided.request, hdecided.consentId, hdecided.requestId]
        exact hsound.filed g _ hrow
  · intro g row' hrow' hpending
    cases h.origin hrow' with
    | aged hrow hages =>
        have hsame := hages.eq_of_pending hpending
        subst hsame
        exact hsound.undecided g row' hrow hpending
    | added hadded => exact hadded.undecided
    | decided hrow hdecided hlive => exact absurd hpending hdecided.settled
  · exact hdigest
  · intro d
    constructor
    · intro hd
      cases h with
      | quiet hrows hsent hkept =>
          refine Succeeds.decisionOf hsucceeds hsound ?_
          rcases hsent d hd with hd | ⟨g, row, hrow, hdecision⟩
          · exact (hsound.sent d).mp hd
          · have hstored : decisionOf a g = some d := decisionOf_some.mpr ⟨row, hrow, hdecision⟩
            rw [hsound.digest g d hstored]
            exact hstored
      | recorded hrows hsent =>
          rw [hsent] at hd
          exact hsucceeds.decisionOf hsound ((hsound.sent d).mp hd)
      | @decided _ _ _ _ g row d' _ hrows hlive hsent =>
          rw [hsent, List.mem_append, List.mem_singleton] at hd
          rcases hd with hd | rfl
          · exact hsucceeds.decisionOf hsound ((hsound.sent d).mp hd)
          · obtain ⟨row', hrow', _, hdecision, _⟩ := hrows.decided
            rw [hlive.digest, (hsound.filed g row hrows.pending.1).1]
            exact decisionOf_some.mpr ⟨row', hrow', hdecision⟩
    · intro hd
      obtain ⟨row', hrow', hdecision⟩ := decisionOf_some.mp hd
      cases h.origin hrow' with
      | aged hrow hages =>
          refine h.sent d ((hsound.sent d).mpr ?_)
          exact decisionOf_some.mpr ⟨_, hrow, hages.decision.symm.trans hdecision⟩
      | added hadded =>
          rw [hadded.undecided] at hdecision
          cases hdecision
      | decided hrow hdecided hlive =>
          rw [hdecided.decision, Option.some_inj] at hdecision
          rw [hdecided.sent, hdecision]
          exact List.mem_append_right _ List.mem_cons_self
  · intro g g' row₁ row₂ hrow₁ hrow₂ hpending₁ hpending₂ hconsent
    by_contra hne
    cases h.origin hrow₁ with
    | added hadded => exact hadded.alone g' row₂ (Ne.symm hne) hrow₂ hconsent.symm hpending₂
    | decided hrow hdecided hlive => exact hdecided.settled hpending₁
    | aged hbefore₁ hages₁ =>
        cases h.origin hrow₂ with
        | added hadded => exact hadded.alone g row₁ hne hrow₁ hconsent hpending₁
        | decided hrow hdecided hlive => exact hdecided.settled hpending₂
        | aged hbefore₂ hages₂ =>
            have hsame₁ := hages₁.eq_of_pending hpending₁
            have hsame₂ := hages₂.eq_of_pending hpending₂
            subst hsame₁ hsame₂
            exact hne (hsound.onePending g g' row₁ row₂ hbefore₁ hbefore₂ hpending₁ hpending₂
              hconsent)

theorem step_sound (a : ApprovalCore) (call : ApprovalCall) (hsound : Sound a) :
    Sound (step T cfg a call) :=
  (step_effect hsound.filed call).sound hsound

theorem sound_start (paused : Bool) (identity : Option DeviceIdentity) :
    Sound { paused := paused, identity := identity } where
  filed _ _ h := nomatch h
  undecided _ _ h := nomatch h
  digest _ _ h := nomatch h
  sent _ := ⟨fun h => (List.not_mem_nil h).elim, nofun⟩
  onePending _ _ _ _ h := nomatch h

theorem succeeds_refl (a : ApprovalCore) : Succeeds a a :=
  fun _ row hrow => ⟨row, hrow, rfl, fun _ => rfl⟩

theorem run_succeeds (hsound : Sound a) (calls : List ApprovalCall) :
    Succeeds a (runFrom (step T cfg) a calls) :=
  runFrom_relates_of_invariant Sound Succeeds (fun a call => step_sound a call) succeeds_refl
    (fun _ _ _ => Succeeds.trans) (fun _ call hsound => (step_effect hsound.filed call).succeeds)
    hsound calls

/-- The decision of a digest changes with the call. -/
def Stores (T : ApprovalClock) (cfg : ApprovalConfig) (g : String) (a : ApprovalCore)
    (call : ApprovalCall) : Prop := decisionOf (step T cfg a call) g ≠ decisionOf a g

instance (g : String) (a : ApprovalCore) (call : ApprovalCall) :
    Decidable (Stores T cfg g a call) := inferInstanceAs (Decidable (¬ _))

/-- A digest gets one decision at most, in a run from any sound state. -/
theorem stores_once (g : String) (hsound : Sound a) (calls : List ApprovalCall) :
    countAlong (step T cfg) (Stores T cfg g) a calls ≤ 1 := by
  refine countAlong_le_one_of_invariant Sound (fun a => ∃ d, decisionOf a g = some d)
    step_sound ?_ ?_ ?_ hsound calls
  · intro a call hsound hstores
    rcases hafter : decisionOf (step T cfg a call) g with _ | d
    · rcases hbefore : decisionOf a g with _ | d
      · exact absurd (hafter.trans hbefore.symm) hstores
      · rw [(step_effect hsound.filed call).succeeds.decisionOf hsound hbefore] at hafter
        cases hafter
    · exact ⟨d, rfl⟩
  · rintro a call hsound ⟨d, hd⟩
    exact ⟨d, (step_effect hsound.filed call).succeeds.decisionOf hsound hd⟩
  · rintro a call hsound ⟨d, hd⟩ hstores
    rw [Stores, hd, (step_effect hsound.filed call).succeeds.decisionOf hsound hd] at hstores
    exact hstores rfl

/-- A decision that is new in the table comes from a submission for a live request. -/
theorem stored_live (hsound : Sound a) (call : ApprovalCall) {g : String} {d : ApprovalDecision}
    (hbefore : decisionOf a g ≠ some d) (hafter : decisionOf (step T cfg a call) g = some d) :
    ∃ id decision clock proof row, call = .submit id decision clock proof ∧
      a.rows.get? g = some row ∧ row.status = .pending ∧ Live T cfg a id decision clock row d ∧
      (step T cfg a call).sent = a.sent ++ [d] := by
  obtain ⟨row', hrow', hdecision⟩ := decisionOf_some.mp hafter
  have horigin : Origin T cfg a call _ g row' := (step_effect hsound.filed call).origin hrow'
  generalize step T cfg a call = a' at hrow' horigin
  cases horigin with
  | aged hrow hages =>
      exact absurd (decisionOf_some.mpr ⟨_, hrow, hages.decision.symm.trans hdecision⟩) hbefore
  | added hadded =>
      rw [hadded.undecided] at hdecision
      cases hdecision
  | @decided id decision clock proof d' _ _ row _ hrow hdecided hlive =>
      rw [hdecided.decision, Option.some_inj] at hdecision
      subst hdecision
      exact ⟨id, decision, clock, proof, row, rfl, hrow, hdecided.pending, hlive, hdecided.sent⟩

end

/-! ## Every run -/

section

variable (T : ApprovalClock) (cfg : ApprovalConfig) (paused : Bool)
  (identity : Option DeviceIdentity)

/-- While the row was there, another request of its consent has been recorded. -/
def Superseded (calls : List ApprovalCall) (g consentId : String) : Prop :=
  ∃ before websocket message now later,
    calls = before ++ .request websocket message now :: later ∧ message.consentId = consentId ∧
      (after T cfg paused identity before).rows.get? g ≠ none ∧
      (after T cfg paused identity before).rows.get? message.approvalRequestDigest = none ∧
      (after T cfg paused identity (before ++ [.request websocket message now])).rows.get?
        message.approvalRequestDigest ≠ none

/-- A call that stores the decision of a digest, after some other calls. -/
structure DecidesLive (pre : List ApprovalCall) (call : ApprovalCall) (g : String)
    (d : ApprovalDecision) (row : ApprovalRow) (id : String) (decision : Verdict)
    (clock : SubmitClock) (proof : Except ApprovalFailure String) : Prop where
  call_eq : call = .submit id decision clock proof
  pending : (after T cfg paused identity pre).rows.get? g = some row ∧ row.status = .pending
  live : Live T cfg (after T cfg paused identity pre) id decision clock row d
  current : ¬ Superseded T cfg paused identity pre g row.request.consentId
  sent : (after T cfg paused identity (pre ++ [call])).sent =
    (after T cfg paused identity pre).sent ++ [d]

structure DecidedOnceWhileLive (calls : List ApprovalCall) : Prop where
  once : ∀ g, countAlong (step T cfg) (Stores T cfg g)
    { paused := paused, identity := identity } calls ≤ 1
  live : ∀ pre call post, calls = pre ++ call :: post → ∀ g d,
    decisionOf (after T cfg paused identity pre) g ≠ some d →
    decisionOf (after T cfg paused identity (pre ++ [call])) g = some d →
    ∃ row id decision clock proof,
      DecidesLive T cfg paused identity pre call g d row id decision clock proof
  /-- What is sent for the first time is stored by the same call. -/
  sent : ∀ pre call post, calls = pre ++ call :: post → ∀ d,
    d ∉ (after T cfg paused identity pre).sent →
    d ∈ (after T cfg paused identity (pre ++ [call])).sent →
    decisionOf (after T cfg paused identity pre) d.approvalRequestDigest ≠ some d ∧
      decisionOf (after T cfg paused identity (pre ++ [call])) d.approvalRequestDigest = some d
  onePending : ∀ pre post, calls = pre ++ post → ∀ g g' row row',
    (after T cfg paused identity pre).rows.get? g = some row →
    (after T cfg paused identity pre).rows.get? g' = some row' →
    row.status = .pending → row'.status = .pending →
    row.request.consentId = row'.request.consentId → g = g'
  settled : ∀ pre mid post, calls = pre ++ mid ++ post → ∀ g row,
    (after T cfg paused identity pre).rows.get? g = some row → row.status ≠ .pending →
    (after T cfg paused identity (pre ++ mid)).rows.get? g = some row

variable {T cfg paused identity}

theorem after_append (calls more : List ApprovalCall) :
    after T cfg paused identity (calls ++ more) =
      runFrom (step T cfg) (after T cfg paused identity calls) more :=
  runFrom_append _ _ calls more

theorem sound_after (calls : List ApprovalCall) : Sound (after T cfg paused identity calls) :=
  runFrom_invariant Sound step_sound (sound_start paused identity) calls

/-- A row that is pending has not been superseded. -/
theorem not_superseded {calls : List ApprovalCall} {g : String} {row : ApprovalRow}
    (hrow : (after T cfg paused identity calls).rows.get? g = some row)
    (hpending : row.status = .pending) :
    ¬ Superseded T cfg paused identity calls g row.request.consentId := by
  rintro ⟨before, websocket, message, now, later, rfl, hconsent, hthere, habsent, hrecorded⟩
  have hsound : Sound (after T cfg paused identity before) := sound_after before
  obtain ⟨first, hfirst⟩ := Option.ne_none_iff_exists'.mp hthere
  obtain ⟨added, hadded⟩ := Option.ne_none_iff_exists'.mp hrecorded
  rw [after_append] at hadded
  have heffect : Effect T cfg _ _ _ := step_effect hsound.filed (.request websocket message now)
  obtain ⟨row', hrow', hfollows⟩ := heffect.succeeds g first hfirst
  have hlater : Succeeds (step T cfg (after T cfg paused identity before)
      (.request websocket message now))
      (after T cfg paused identity (before ++ .request websocket message now :: later)) := by
    rw [after_append]
    exact run_succeeds (heffect.sound hsound) later
  obtain ⟨row'', hrow'', hfollows'⟩ := hlater g row' hrow'
  rw [hrow, Option.some_inj] at hrow''
  subst hrow''
  cases heffect.origin hadded with
  | aged hbefore hages =>
      rw [habsent] at hbefore
      cases hbefore
  | added hadded =>
      -- the row of the consent was settled when the request was added, and stayed so
      have hne : g ≠ message.approvalRequestDigest := by
        rintro rfl
        exact hthere habsent
      have hsame : row'.consentId = message.consentId := by
        rw [← hfollows'.consentId, (sound_after _).filed g row hrow |>.2.1, hconsent]
      have hsettled := hadded.alone g row' hne hrow' (hsame.trans hadded.consentId.symm)
      rw [hfollows'.settled hsettled] at hpending
      exact hsettled hpending

theorem decided_once_while_live (T : ApprovalClock) (cfg : ApprovalConfig) (paused : Bool)
    (identity : Option DeviceIdentity) (calls : List ApprovalCall) :
    DecidedOnceWhileLive T cfg paused identity calls where
  once g := stores_once g (sound_start paused identity) calls
  live := by
    rintro pre call post - g d hbefore hstored
    rw [after_append] at hstored
    obtain ⟨id, decision, clock, proof, row, hcall, hrow, hpending, hlive, hsent⟩ :=
      stored_live (sound_after pre) call hbefore hstored
    refine ⟨row, id, decision, clock, proof, hcall, ⟨hrow, hpending⟩, hlive,
      not_superseded hrow hpending, ?_⟩
    rw [after_append]
    exact hsent
  sent := by
    rintro pre call post - d hbefore hsent
    exact ⟨fun hstored => hbefore (((sound_after pre).sent d).mpr hstored),
      ((sound_after _).sent d).mp hsent⟩
  onePending := by
    rintro pre post - g g' row row' hrow hrow' hpending hpending' hconsent
    have hsound : Sound (after T cfg paused identity pre) := sound_after pre
    refine hsound.onePending g g' row row' hrow hrow' hpending hpending' ?_
    rw [(hsound.filed g row hrow).2.1, (hsound.filed g' row' hrow').2.1]
    exact hconsent
  settled := by
    rintro pre mid post - g row hrow hsettled
    rw [after_append]
    obtain ⟨row', hrow', hfollows⟩ := run_succeeds (sound_after pre) mid g row hrow
    rw [hfollows.settled hsettled] at hrow'
    exact hrow'

def sampleRequest (digest : String) : ApprovalRequest where
  sessionId := "s"
  deviceId := "d"
  correlationId := ""
  approvalRequestId := digest
  intentId := ""
  consentId := "c"
  intentDigest := ""
  challengeNonce := ""
  expiresAt := ""
  deviceIdentityGeneration := 1
  deviceKeyThumbprint := "k"
  approvalRequestDigest := digest

/-- The second request of the consent is decided, the first one was superseded. -/
example :
    let session := after ⟨fun _ => 10, fun _ => ""⟩ ⟨"d", true, true⟩ false (some ⟨"d", 1, "k"⟩)
      [.welcomed ⟨"s", 0⟩ 0, .request 0 (sampleRequest "a") 1, .request 0 (sampleRequest "b") 2,
        .submit "a" .approve ⟨3, 3, 3⟩ (.ok ""), .submit "b" .deny ⟨4, 4, 4⟩ (.ok ""),
        .submit "b" .approve ⟨5, 5, 5⟩ (.ok "")]
    session.rows.rows.map ApprovalRow.status = [.invalidated, .denied] ∧
      session.sent.map ApprovalDecision.decision = [.deny] := by
  decide +kernel

end

end AutocadMcp.LocalApproval
