import BevyQuic.Connection.ClientAttempts

/-! Client connections over whole runs, on any number of entities: what an attempt to connect comes
to, and when. -/

namespace BevyQuic.Connection
open Concurrency

section Entity
variable {d : Display} {x x' : ClientFrame} {y : ClientEntity} {conn : S2nConnection}
variable {c : ConnectionEntity} {a : QuicConnectionAttempt} {l : ClientFrameLabel}

inductive ClientStage (d : Display) (x : ClientFrame) : Prop
  | absent : x.slot = none → x.queue = [] → ClientStage d x
  | connecting (y : ClientEntity) (a : QuicConnectionAttempt) : Connecting x y a → ClientStage d x
  | failing (y : ClientEntity) (err : TaskError) : Failing x y err → ClientStage d x
  | failed (y : ClientEntity) (err : TaskError) : Failed x y err → ClientStage d x
  | opening (y : ClientEntity) (conn : S2nConnection) (c : ConnectionEntity)
      (w : WatchedConnection) : Opening x y conn c w → ClientStage d x
  | opened (y : ClientEntity) (conn : S2nConnection) (c : ConnectionEntity) :
      Opened x y conn c → Stage d (reportedFrame x c) → ClientStage d x

theorem Opened.stage (h : Opened x y conn c) (hs : Stage d (reportedFrame x c))
    (hstarted : ∀ s, x.due s = true → x.started s = true) (m : (clientApp d).EntityMove x l x') :
    ClientStage d x' := by
  obtain ⟨y', c', h', -, ⟨hsame, -⟩ | ⟨k, hk, -⟩⟩ := h.step m
  · exact .opened y' conn c' h' (hsame ▸ hs)
  · exact .opened y' conn c' h' (hs.step (fun _ => hstarted _) hk)

theorem ClientStage.step (h : ClientStage d x)
    (hstarted : ∀ s, x.due s = true → x.started s = true) (m : (clientApp d).EntityMove x l x') :
    ClientStage d x' := by
  cases h with
  | absent hslot hqueue =>
    cases m with
    | spawn i => exact .connecting _ _ (connecting_new hqueue i)
    | own l z y' hz => exact absurd (hslot.symm.trans hz) nofun
    | run s => exact .absent hslot hqueue
    | visit s z y' commands hz => exact absurd (hslot.symm.trans hz) nofun
    | finish => exact .absent (by rw [hslot]; rfl) rfl
  | connecting y a h =>
    rcases h.step hstarted m with ⟨y', a', hw, -⟩ | ⟨-, ⟨y', err, -, hw⟩ | ⟨y', conn, c, w, -, hw⟩⟩
    · exact .connecting y' a' hw
    · exact .failing y' err hw
    · exact .opening y' conn c w hw
  | failing y err h =>
    rcases h.step m with ⟨y', hw, -⟩ | ⟨y', hw⟩
    · exact .failing y' err hw
    · exact .failed y' err hw
  | failed y err h => exact .failed y err (h.step m)
  | opening y conn c w h =>
    rcases h.step m with ⟨y', c', w', hw, -⟩ | ⟨y', hw, hconnected, -⟩
    · exact .opening y' conn c' w' hw
    · exact .opened y' conn c hw (.connected c w hconnected)
  | opened y conn c h hs => exact h.stage hs hstarted m

theorem reachable_clientStage (h : (clientApp d).entityMachine.Reachable x) : ClientStage d x :=
  h.invariant (P := ClientStage d) (.absent rfl rfl) fun _ _ _ hx hs hl =>
    hs.step (fun _ => App.started_of_due hx) (App.entityStep_move hl)

/-! ### From the result of an attempt to the component -/

def Settled : Except TaskError S2nConnection → ClientFrame → Prop
  | .ok conn, x => ∃ y c, Opened x y conn c
  | .error err, x => ∃ y, Failed x y err

def Seen (r : Except TaskError S2nConnection) (x : ClientFrame) : Prop :=
  Settled r x ∨ match r with
    | .ok conn => ∃ y c w, Opening x y conn c w
    | .error err => ∃ y, Failing x y err

def Resolved (r : Except TaskError S2nConnection) (x : ClientFrame) : Prop :=
  (∃ y a, Connecting x y a ∧ y.result = some r) ∨ Seen r x

def Resolving (r : Except TaskError S2nConnection) (x : ClientFrame) : Prop :=
  (∃ y a, Connecting x y a ∧ y.result = some r ∧ (x.started .handleConnectionAttempts = false ∨
    x.due .handleConnectionAttempts = true)) ∨ Seen r x

variable {r : Except TaskError S2nConnection}

theorem Settled.step (h : Settled r x) (m : (clientApp d).EntityMove x l x') : Settled r x' := by
  cases r with
  | error err =>
    obtain ⟨y, h⟩ := h
    exact ⟨y, h.step m⟩
  | ok conn =>
    obtain ⟨y, c, h⟩ := h
    obtain ⟨y', c', h', -⟩ := h.step m
    exact ⟨y', c', h'⟩

theorem Seen.step (h : Seen r x) (m : (clientApp d).EntityMove x l x') :
    Seen r x' ∧ (l = .finish → Settled r x') := by
  rcases h with h | h
  · exact ⟨.inl (h.step m), fun _ => h.step m⟩
  · cases r with
    | error err =>
      obtain ⟨y, h⟩ := h
      rcases h.step m with ⟨y', hw, hl⟩ | hw
      · exact ⟨.inr ⟨y', hw⟩, fun hfinish => absurd hfinish hl⟩
      · exact ⟨.inl hw, fun _ => hw⟩
    | ok conn =>
      obtain ⟨y, c, w, h⟩ := h
      rcases h.step m with ⟨y', c', w', hw, hl, -⟩ | ⟨y', hw, -⟩
      · exact ⟨.inr ⟨y', c', w', hw⟩, fun hfinish => absurd hfinish hl⟩
      · exact ⟨.inl ⟨y', c, hw⟩, fun _ => ⟨y', c, hw⟩⟩

theorem Connecting.seen (h : Connecting x y a) (hres : y.result = some r)
    (hstarted : ∀ s, x.due s = true → x.started s = true) (m : (clientApp d).EntityMove x l x') :
    (∃ y' a', Connecting x' y' a' ∧ y'.result = some r ∧ l ≠ .visit .handleConnectionAttempts) ∨
      l = .visit .handleConnectionAttempts ∧ Seen r x' := by
  rcases h.step hstarted m with
    ⟨y', a', hw, hkept, hnone⟩ | ⟨hl, ⟨y', err, hres', hw⟩ | ⟨y', conn, c, w, hres', hw⟩⟩
  · refine .inl ⟨y', a', hw, hkept r hres, ?_⟩
    intro hl
    exact absurd (hres.symm.trans (hnone hl)) nofun
  · obtain rfl := Option.some.inj (hres.symm.trans hres')
    exact .inr ⟨hl, .inr ⟨y', hw⟩⟩
  · obtain rfl := Option.some.inj (hres.symm.trans hres')
    exact .inr ⟨hl, .inr ⟨y', c, w, hw⟩⟩

theorem Resolving.step (h : Resolving r x) (hstarted : ∀ s, x.due s = true → x.started s = true)
    (m : (clientApp d).EntityMove x l x') :
    Resolving r x' ∧ (l = .finish → Settled r x') := by
  rcases h with ⟨y, a, h, hres, hcoming⟩ | h
  · rcases h.seen hres hstarted m with ⟨y', a', hw, hres', hl⟩ | ⟨rfl, hseen⟩
    · have hquery : (clientApp d).query .handleConnectionAttempts y = true := by
        simp [clientApp, queryClient, h.attempt]
      obtain ⟨hfinish, hcoming'⟩ := m.coming h.slot rfl hquery hl hcoming
      exact ⟨.inl ⟨y', a', hw, hres', hcoming'⟩, fun hl => absurd hl hfinish⟩
    · refine ⟨.inr hseen, ?_⟩
      intro hl
      cases hl
  · exact ⟨.inr (h.step m).1, (h.step m).2⟩

theorem Resolved.step (h : Resolved r x) (hstarted : ∀ s, x.due s = true → x.started s = true)
    (m : (clientApp d).EntityMove x l x') :
    Resolved r x' ∧ (l = .finish → Resolving r x') := by
  rcases h with ⟨y, a, h, hres⟩ | h
  · rcases h.seen hres hstarted m with ⟨y', a', hw, hres', -⟩ | ⟨rfl, hseen⟩
    · refine ⟨.inl ⟨y', a', hw, hres'⟩, ?_⟩
      rintro rfl
      cases m with
      | finish => exact .inl ⟨y', a', hw, hres', .inl rfl⟩
    · refine ⟨.inr hseen, ?_⟩
      intro hl
      cases hl
  · exact ⟨.inr (h.step m).1, fun _ => .inr (h.step m).1⟩

/-! ### From the end of a task to its report -/

def Ended (d : Display) (o : ConnectionOutcome) (z : ReportedEntity) : Prop :=
  (∃ c w, Connected z c w ∧ c.outcome w = some o) ∨ (∃ c w, Queued d z c w o) ∨
    ∃ c w, Reported d z c w o

theorem Ended.move {o : ConnectionOutcome} {z z' : ReportedEntity}
    {k : EntityLabel ConnectionId (WatchLabel Label) ConnectionSystem} (h : Ended d o z)
    (hstarted : ∀ s, z.due s = true → z.started s = true)
    (m : (connectionApp d).EntityMove z k z') :
    Ended d o z' ∧ (k = .finish → Ending d o z') := by
  rcases h with ⟨c, w, h, ho⟩ | ⟨c, w, h⟩ | ⟨c, w, h⟩
  · rcases h.step hstarted m with ⟨c', w', hw, hkept, -⟩ | ⟨s, c', w', o', rfl, ho', hw⟩
    · refine ⟨.inl ⟨c', w', hw, hkept o ho⟩, ?_⟩
      rintro rfl
      cases m with
      | finish => exact .inl ⟨c', w', hw, hkept o ho, .inl rfl⟩
    · obtain rfl := Option.some.inj (ho.symm.trans ho')
      exact ⟨.inr (.inl ⟨c', w', hw⟩), nofun⟩
  · rcases h.step m with ⟨c', w', hw, hl⟩ | ⟨c', hw⟩
    · exact ⟨.inr (.inl ⟨c', w', hw⟩), fun hfinish => absurd hfinish hl⟩
    · exact ⟨.inr (.inr ⟨c', w, hw⟩), fun _ => .inr (.inr ⟨c', w, hw⟩)⟩
  · exact ⟨.inr (.inr ⟨c, w, h.step m⟩), fun _ => .inr (.inr ⟨c, w, h.step m⟩)⟩

def ClientEnded (d : Display) (o : ConnectionOutcome) (x : ClientFrame) : Prop :=
  (∃ y conn c w, Opening x y conn c w ∧ c.outcome w = some o) ∨
    ∃ y conn c, Opened x y conn c ∧ Ended d o (reportedFrame x c)

def ClientEnding (d : Display) (o : ConnectionOutcome) (x : ClientFrame) : Prop :=
  ∃ y conn c, Opened x y conn c ∧ Ending d o (reportedFrame x c)

def ClientReported (d : Display) (o : ConnectionOutcome) (x : ClientFrame) : Prop :=
  ∃ y conn c w, Opened x y conn c ∧ Reported d (reportedFrame x c) c w o

theorem reported_of_frame {o : ConnectionOutcome}
    (h : ∃ c' w, Reported d (reportedFrame x c) c' w o) :
    ∃ w, Reported d (reportedFrame x c) c w o := by
  obtain ⟨c', w, hw⟩ := h
  obtain rfl : c = c' := Option.some.inj hw.slot
  exact ⟨w, hw⟩

variable {o : ConnectionOutcome}

theorem ClientEnded.step (h : ClientEnded d o x)
    (hstarted : ∀ s, x.due s = true → x.started s = true) (m : (clientApp d).EntityMove x l x') :
    ClientEnded d o x' ∧ (l = .finish → ClientEnding d o x') := by
  rcases h with ⟨y, conn, c, w, h, ho⟩ | ⟨y, conn, c, h, hended⟩
  · rcases h.step m with ⟨y', c', w', hw, hl, hkept⟩ | ⟨y', hw, hconnected, hfresh⟩
    · exact ⟨.inl ⟨y', conn, c', w', hw, hkept o ho⟩, fun hfinish => absurd hfinish hl⟩
    · refine ⟨.inr ⟨y', conn, c, hw, .inl ⟨c, w, hconnected, ho⟩⟩, fun _ => ?_⟩
      exact ⟨y', conn, c, hw, .inl ⟨c, w, hconnected, ho, .inl hfresh⟩⟩
  · obtain ⟨y', c', h', -, ⟨hsame, hl⟩ | ⟨k, hk, hfinish⟩⟩ := h.step m
    · exact ⟨.inr ⟨y', conn, c', h', hsame ▸ hended⟩, fun hfinish => absurd hfinish hl⟩
    · obtain ⟨hkept, hends⟩ := hended.move (fun _ => hstarted _) hk
      exact ⟨.inr ⟨y', conn, c', h', hkept⟩, fun hl => ⟨y', conn, c', h', hends (hfinish hl)⟩⟩

theorem ClientEnding.step (h : ClientEnding d o x)
    (hstarted : ∀ s, x.due s = true → x.started s = true) (m : (clientApp d).EntityMove x l x') :
    ClientEnding d o x' ∧ (l = .finish → ClientReported d o x') := by
  obtain ⟨y, conn, c, h, hending⟩ := h
  obtain ⟨y', c', h', -, ⟨hsame, hl⟩ | ⟨k, hk, hfinish⟩⟩ := h.step m
  · exact ⟨⟨y', conn, c', h', hsame ▸ hending⟩, fun hfinish => absurd hfinish hl⟩
  · obtain ⟨hkept, hends⟩ := hending.move (fun _ => hstarted _) hk
    refine ⟨⟨y', conn, c', h', hkept⟩, fun hl => ?_⟩
    obtain ⟨w, hw⟩ := reported_of_frame (hends (hfinish hl))
    exact ⟨y', conn, c', w, h', hw⟩

theorem ClientReported.step (h : ClientReported d o x) (m : (clientApp d).EntityMove x l x') :
    ClientReported d o x' := by
  obtain ⟨y, conn, c, w, h, hreported⟩ := h
  obtain ⟨y', c', h', -, ⟨hsame, -⟩ | ⟨k, hk, -⟩⟩ := h.step m
  · obtain ⟨w', hw⟩ := reported_of_frame ⟨c, w, hsame ▸ hreported⟩
    exact ⟨y', conn, c', w', h', hw⟩
  · obtain ⟨w', hw⟩ := reported_of_frame ⟨c, w, hreported.step hk⟩
    exact ⟨y', conn, c', w', h', hw⟩

end Entity

/-! ## All of them -/

abbrev ClientWorld (E : Type) := World E ClientEntity ClientSystem ClientCommand Unit

section World
variable {E : Type} [DecidableEq E] {d : Display} {W W' : ClientWorld E} {e : E} {y : ClientEntity}
variable {r : Except TaskError S2nConnection} {o : ConnectionOutcome}

theorem Resolved.passes (h : Resolved r (W.entity e)) {W₁ W₂ : ClientWorld E}
    (hW : ((clientApp d).worldMachine E).Reachable W) (h₁ : (clientApp d).Passes W W₁)
    (h₂ : (clientApp d).Passes W₁ W₂) :
    Settled r (W₂.entity e) := by
  have hresolving : Resolving r (W₁.entity e) :=
    h₁.leads (P := Resolved r) (Q := Resolving r) (fun _ _ _ hs hP m => hP.step hs m)
      (fun _ _ _ hs hQ m => (hQ.step hs m).1) hW h
  exact h₂.leads (P := Resolving r) (Q := Settled r) (fun _ _ _ hs hP m => hP.step hs m)
    (fun _ _ _ _ hQ m => hQ.step m) (h₁.reachable hW) hresolving

theorem ClientEnded.passes (h : ClientEnded d o (W.entity e)) {W₁ W₂ : ClientWorld E}
    (hW : ((clientApp d).worldMachine E).Reachable W) (h₁ : (clientApp d).Passes W W₁)
    (h₂ : (clientApp d).Passes W₁ W₂) :
    ClientReported d o (W₂.entity e) := by
  have hending : ClientEnding d o (W₁.entity e) :=
    h₁.leads (P := ClientEnded d o) (Q := ClientEnding d o) (fun _ _ _ hs hP m => hP.step hs m)
      (fun _ _ _ hs hQ m => (hQ.step hs m).1) hW h
  exact h₂.leads (P := ClientEnding d o) (Q := ClientReported d o)
    (fun _ _ _ hs hP m => hP.step hs m) (fun _ _ _ _ hQ m => hQ.step m) (h₁.reachable hW) hending

structure ClientHandled (d : Display) (W : ClientWorld E) (e : E) (y : ClientEntity) : Prop where
  pending : y.result = none →
    y.attempt.isSome = true ∧ y.connection = none ∧ commandsFor e W.queue = []
  established : ∀ c, y.connection = some c → ∃ conn, y.result = some (.ok conn) ∧
    c.id = .new conn.id y.parentId
  replaced : y.inserted = true → y.attempt = none ∧ y.connection.isSome = true
  /-- The second schedule that ends finds the component there, if it does not find it gone. -/
  opens : ∀ conn, y.result = some (.ok conn) → ∀ W₁ W₂, (clientApp d).Passes W W₁ →
    (clientApp d).Passes W₁ W₂ →
    ∃ y' c, W₂.slots e = some y' ∧ y'.attempt = none ∧ y'.inserted = true ∧
      y'.connection = some c ∧ c.id = .new conn.id y.parentId
  fails : ∀ err, y.result = some (.error err) → y.connection = none ∧
    ∀ W₁ W₂, (clientApp d).Passes W W₁ → (clientApp d).Passes W₁ W₂ →
      ∃ y', W₂.slots e = some y' ∧ y'.attempt = none ∧ y'.connection = none
  /-- There is no event while the component is there, and one as it goes. -/
  present : ∀ c w, y.connection = some c → c.component = some w → c.events = []
  gone : ∀ c, y.connection = some c → c.component = none → ∃ w o, c.removed = some w ∧
    c.outcome w = some o ∧ Caused w o ∧ c.events = [(joinReason o).toDisconnectReason d]
  reports : ∀ c w o, y.connection = some c → c.component = some w → c.outcome w = some o →
    ∀ W₁ W₂, (clientApp d).Passes W W₁ → (clientApp d).Passes W₁ W₂ →
    ∃ y' c', W₂.slots e = some y' ∧
      y'.connection = some c' ∧ c'.component = none ∧
      c'.events = [(joinReason o).toDisconnectReason d]

theorem reachable_client (h : ((clientApp d).worldMachine E).Reachable W) (e : E) :
    (clientApp d).entityMachine.Reachable (W.entity e) :=
  (worldSimulation (clientApp d) e).reachable h

theorem applyAll_parentId (queue : List ClientCommand) :
    ((clientApp d).applyAll y queue).parentId = y.parentId := by
  induction queue generalizing y with
  | nil => rfl
  | cons command queue ih =>
    have hnext : (y.apply command).parentId = y.parentId := by
      cases command <;> rfl
    exact ih.trans hnext

theorem EntityMove.parentId {x x' : ClientFrame} {l : ClientFrameLabel}
    (m : (clientApp d).EntityMove x l x') (hy : x.slot = some y) :
    ∃ y', x'.slot = some y' ∧ y'.parentId = y.parentId := by
  cases m with
  | spawn i hnone =>
    rw [hy] at hnone
    cases hnone
  | own l z y' hz hown =>
    obtain rfl := Option.some.inj (hy.symm.trans hz)
    have hown : y.own l = some y' := hown
    cases l with
    | connect outcome =>
      obtain ⟨a, task, -, -, rfl⟩ := own_connect hown
      exact ⟨_, rfl, rfl⟩
    | connection k =>
      obtain ⟨c, c', -, -, rfl⟩ := own_connection hown
      exact ⟨_, rfl, rfl⟩
  | run s => exact ⟨y, hy, rfl⟩
  | visit s z y' commands hz hdue hv =>
    obtain rfl := Option.some.inj (hy.symm.trans hz)
    cases s with
    | handleConnectionAttempts =>
      obtain ⟨a, -, heq⟩ := Option.map_eq_some_iff.mp hv
      refine ⟨y', rfl, ?_⟩
      split at heq <;> exact (congrArg ClientEntity.parentId (Prod.mk.inj heq).1).symm
    | handleConnectionDisconnections =>
      obtain ⟨-, c, c', cs, -, -, rfl, -⟩ := visit_connection hv
      exact ⟨_, rfl, rfl⟩
  | finish =>
    refine ⟨(clientApp d).applyAll y x.queue, by rw [hy]; rfl, ?_⟩
    exact applyAll_parentId x.queue

theorem ClientStage.comesTo {x : ClientFrame} (h : ClientStage d x) (hy : x.slot = some y) :
    (y.connection = none ∧ y.inserted = false ∧ ∃ a, Connecting x y a) ∨
      (y.connection = none ∧ ∃ err, y.result = some (.error err) ∧
        (Failing x y err ∨ Failed x y err)) ∨
      ∃ conn c, y.result = some (.ok conn) ∧ y.connection = some c ∧
        c.id = .new conn.id y.parentId ∧
        ((∃ w, Opening x y conn c w) ∨ Opened x y conn c ∧ Stage d (reportedFrame x c)) := by
  cases h with
  | absent hslot => exact absurd (hslot.symm.trans hy) nofun
  | connecting z a h =>
    obtain rfl := Option.some.inj (h.slot.symm.trans hy)
    exact .inl ⟨h.connection, h.inserted, a, h⟩
  | failing z err h =>
    obtain rfl := Option.some.inj (h.slot.symm.trans hy)
    exact .inr (.inl ⟨h.connection, err, h.result, .inl h⟩)
  | failed z err h =>
    obtain rfl := Option.some.inj (h.slot.symm.trans hy)
    exact .inr (.inl ⟨h.connection, err, h.result, .inr h⟩)
  | opening z conn c w h =>
    obtain rfl := Option.some.inj (h.slot.symm.trans hy)
    exact .inr (.inr ⟨conn, c, h.result, h.connection, h.id, .inl ⟨w, h⟩⟩)
  | opened z conn c h hs =>
    obtain rfl := Option.some.inj (h.slot.symm.trans hy)
    exact .inr (.inr ⟨conn, c, h.result, h.connection, h.id, .inr ⟨h, hs⟩⟩)

theorem ClientStage.resolved {x : ClientFrame} (h : ClientStage d x) (hy : x.slot = some y)
    (hres : y.result = some r) : Resolved r x := by
  rcases h.comesTo hy with
    ⟨-, -, a, hw⟩ | ⟨-, err, herr, hw⟩ | ⟨conn, c, hconn, -, -, ⟨w, hw⟩ | ⟨hw, -⟩⟩
  · exact .inl ⟨y, a, hw, hres⟩
  · obtain rfl := Option.some.inj (herr.symm.trans hres)
    exact .inr (hw.symm.imp (fun hw => ⟨y, hw⟩) fun hw => ⟨y, hw⟩)
  · obtain rfl := Option.some.inj (hconn.symm.trans hres)
    exact .inr (.inr ⟨y, c, w, hw⟩)
  · obtain rfl := Option.some.inj (hconn.symm.trans hres)
    exact .inr (.inl ⟨y, c, hw⟩)

theorem ClientStage.replaced {x : ClientFrame} (h : ClientStage d x) (hy : x.slot = some y)
    (hinserted : y.inserted = true) : y.attempt = none ∧ y.connection.isSome = true := by
  have hnot : y.inserted ≠ false := fun hfalse => absurd (hinserted.symm.trans hfalse) (by decide)
  rcases h.comesTo hy with
    ⟨-, hfalse, -⟩ | ⟨-, err, -, hw | hw⟩ | ⟨conn, c, -, hc, -, ⟨w, hw⟩ | ⟨hw, -⟩⟩
  · exact absurd hfalse hnot
  · exact absurd hw.inserted hnot
  · exact absurd hw.inserted hnot
  · exact absurd hw.inserted hnot
  · exact ⟨hw.attempt, Option.isSome_iff_exists.mpr ⟨c, hc⟩⟩

theorem passes_parentId {W₁ W₂ : ClientWorld E} (h : ((clientApp d).worldMachine E).Reachable W)
    (hy : W.slots e = some y) (h₁ : (clientApp d).Passes W W₁) (h₂ : (clientApp d).Passes W₁ W₂) :
    ∃ y', W₂.slots e = some y' ∧ y'.parentId = y.parentId := by
  have hkept : ∀ (x : ClientFrame) k x', (∃ z, x.slot = some z ∧ z.parentId = y.parentId) →
      (clientApp d).EntityMove x k x' → ∃ z, x'.slot = some z ∧ z.parentId = y.parentId := by
    rintro x k x' ⟨z, hz, hp⟩ m
    obtain ⟨z', hz', hp'⟩ := EntityMove.parentId m hz
    exact ⟨z', hz', hp'.trans hp⟩
  have hslot : ∃ z, (W.entity e).slot = some z ∧ z.parentId = y.parentId := ⟨y, hy, rfl⟩
  exact h₂.keeps hkept (h₁.reachable h) (h₁.keeps hkept h hslot)

theorem ClientStage.connection {x : ClientFrame} {c : ConnectionEntity} (h : ClientStage d x)
    (hy : x.slot = some y) (hc : y.connection = some c) :
    (∃ w, Attached c w ∧ ∀ o, c.outcome w = some o → ClientEnded d o x) ∨
      ∃ w o, Reported d (reportedFrame x c) c w o := by
  rcases h.comesTo hy with ⟨hnone, -⟩ | ⟨hnone, -⟩ | ⟨conn, c', -, hc', -, hw⟩
  · exact absurd (hnone.symm.trans hc) nofun
  · exact absurd (hnone.symm.trans hc) nofun
  · obtain rfl := Option.some.inj (hc'.symm.trans hc)
    rcases hw with ⟨w, hw⟩ | ⟨hopened, hs⟩
    · exact .inl ⟨w, hw.attached, fun o ho => .inl ⟨y, conn, c', w, hw, ho⟩⟩
    · cases hs with
      | absent hnone => cases hnone
      | connected z w hz =>
        obtain rfl : c' = z := Option.some.inj hz.slot
        exact .inl ⟨w, hz.attached, fun o ho => .inr ⟨y, conn, c', hopened, .inl ⟨c', w, hz, ho⟩⟩⟩
      | queued z w o hz =>
        obtain rfl : c' = z := Option.some.inj hz.slot
        refine .inl ⟨w, hz.attached,
          fun o' ho' => .inr ⟨y, conn, c', hopened, .inr (.inl ⟨c', w, ?_⟩)⟩⟩
        obtain rfl := Option.some.inj (hz.outcome.symm.trans ho')
        exact hz
      | reported z w o hz =>
        obtain rfl : c' = z := Option.some.inj hz.slot
        exact .inr ⟨w, o, hz⟩

/-- A client entity in every run: while its task has not ended the attempt is all there is; a result
that is a connection, and no other, puts that connection on the entity in the place of the attempt;
and the end of the connection is reported once, with its cause. -/
theorem client_connections_handled (h : ((clientApp d).worldMachine E).Reachable W)
    (hy : W.slots e = some y) : ClientHandled d W e y := by
  have hslot : (W.entity e).slot = some y := hy
  have hstage : ClientStage d (W.entity e) := reachable_clientStage (reachable_client h e)
  constructor
  · intro hnone
    rcases hstage.comesTo hslot with
      ⟨hconnection, -, a, hw⟩ | ⟨-, err, herr, -⟩ | ⟨conn, c, hconn, -⟩
    · exact ⟨Option.isSome_iff_exists.mpr ⟨a, hw.attempt⟩, hconnection, hw.queue⟩
    · exact absurd (hnone.symm.trans herr) nofun
    · exact absurd (hnone.symm.trans hconn) nofun
  · intro c hc
    rcases hstage.comesTo hslot with ⟨hnone, -⟩ | ⟨hnone, -⟩ | ⟨conn, c', hconn, hc', hid, -⟩
    · exact absurd (hnone.symm.trans hc) nofun
    · exact absurd (hnone.symm.trans hc) nofun
    · obtain rfl := Option.some.inj (hc'.symm.trans hc)
      exact ⟨conn, hconn, hid⟩
  · exact hstage.replaced hslot
  · intro conn hconn W₁ W₂ h₁ h₂
    obtain ⟨y', c, hopened⟩ := (hstage.resolved hslot hconn).passes h h₁ h₂
    obtain ⟨z, hz, hp⟩ := passes_parentId h hy h₁ h₂
    obtain rfl := Option.some.inj (hopened.slot.symm.trans hz)
    exact ⟨y', c, hopened.slot, hopened.attempt, hopened.inserted, hopened.connection,
      hp ▸ hopened.id⟩
  · intro err herr
    refine ⟨?_, fun W₁ W₂ h₁ h₂ => ?_⟩
    · rcases hstage.comesTo hslot with ⟨hnone, -⟩ | ⟨hnone, -⟩ | ⟨conn, c, hconn, -⟩
      · exact hnone
      · exact hnone
      · exact absurd (hconn.symm.trans herr) nofun
    · obtain ⟨y', hfailed⟩ := (hstage.resolved hslot herr).passes h h₁ h₂
      exact ⟨y', hfailed.slot, hfailed.attempt, hfailed.connection⟩
  · intro c w hc hw
    rcases hstage.connection hslot hc with ⟨w', hattached, -⟩ | ⟨w', o, hreported⟩
    · exact hattached.events
    · exact absurd (hreported.component.symm.trans hw) nofun
  · intro c hc hnone
    rcases hstage.connection hslot hc with ⟨w', hattached, -⟩ | ⟨w', o, hreported⟩
    · exact absurd (hnone.symm.trans hattached.component) nofun
    · exact ⟨w', o, hreported.removed, hreported.outcome,
        caused_of_outcome hreported.reachable hreported.live hreported.outcome, hreported.events⟩
  · intro c w o hc hw ho W₁ W₂ h₁ h₂
    rcases hstage.connection hslot hc with ⟨w', hattached, hended⟩ | ⟨w', o', hreported⟩
    · obtain rfl := Option.some.inj (hattached.component.symm.trans hw)
      obtain ⟨y', conn, c', w', hopened, hreported⟩ := (hended o ho).passes h h₁ h₂
      exact ⟨y', c', hopened.slot, hopened.connection, hreported.component, hreported.events⟩
    · exact absurd (hreported.component.symm.trans hw) nofun

end World

/-- One client connects, and its connection ends as the peer closes it; the other one is refused. -/
def clientRun : List (WorldLabel ℕ QuicParentId ClientLabel ClientSystem) :=
  [.spawn 1 ⟨.client, 0⟩, .spawn 2 ⟨.client, 1⟩, .own 1 (.connect (.ok (.ok ⟨7⟩))),
    .own 2 (.connect (.ok (.error .idleTimerExpired))), .run .handleConnectionAttempts,
    .run .handleConnectionDisconnections, .visit 1 .handleConnectionAttempts,
    .visit 2 .handleConnectionAttempts, .own 1 (.connection (.inner (.task .loopTop))), .finish,
    .own 1 (.connection (.inner (.task .recvPending))),
    .own 1 (.connection (.inner (.task (.accept (.ok none))))),
    .own 1 (.connection (.inner (.task .loopTop))),
    .own 1 (.connection (.inner (.task .dropSelf))), .own 1 (.connection (.inner (.task .finish))),
    .run .handleConnectionAttempts, .run .handleConnectionDisconnections,
    .visit 1 .handleConnectionDisconnections, .finish]

theorem client_connections_handled_clientRun :
    let d : Display := ⟨fun _ => "", fun _ => "", fun _ => "", fun _ => ""⟩
    let W := ((clientApp d).worldMachine ℕ).after clientRun
    (∃ y c, W.slots 1 = some y ∧ y.connection = some c ∧ c.id = ⟨⟨.client, 0⟩, 7⟩ ∧
      c.events = [.byPeer "Connection has been closed by user without an error"] ∧
      ClientHandled d W 1 y) ∧
    ∃ y, W.slots 2 = some y ∧ y.attempt = none ∧ y.connection.isNone ∧ ClientHandled d W 2 y :=
  let d : Display := ⟨fun _ => "", fun _ => "", fun _ => "", fun _ => ""⟩
  let m := (clientApp d).worldMachine ℕ
  have hreach := m.reachable_after clientRun
  ⟨⟨_, _, rfl, rfl, rfl, rfl, client_connections_handled hreach rfl⟩,
    ⟨_, rfl, rfl, rfl, client_connections_handled hreach rfl⟩⟩

end BevyQuic.Connection
