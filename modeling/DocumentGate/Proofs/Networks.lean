import DocumentGate.Proofs.CookieJars
import DocumentGate.Proofs.RegardedSessions
import DocumentGate.Proofs.TracedSessions

/-!
# Networks of clients

Any number of clients send requests to an application, get their responses in any order or not at
all, and keep of the cookie what the responses say.  In between operations take their turns, time
passes and the reaper scans.

Each step keeps the traces of sessions to requests, the responses that are waited for, and that
whatever is under way deals with sessions of its own request only, or belongs to a scan.
-/

namespace DocumentGate.Http

/-! ## What an application does -/

namespace Application

variable {application : Application} {label : String}

theorem deliver_frame (application : Application) (label : String) (answer : Service.Answer) :
    (application.deliver label answer).machine = application.machine ∧
      (application.deliver label answer).tokens = application.tokens ∧
      (application.deliver label answer).issued = application.issued := by
  unfold deliver
  split <;> exact ⟨rfl, rfl, rfl⟩

/-- Turning answers into responses changes nothing but that they are answered. -/
theorem collect_frame (application : Application) :
    application.collect.machine = { application.machine with answers := [] } ∧
      application.collect.tokens = application.tokens ∧
      application.collect.issued = application.issued :=
  @holds_collect application (fun collected =>
    collected.machine = { application.machine with answers := [] } ∧
      collected.tokens = application.tokens ∧ collected.issued = application.issued)
    ⟨rfl, rfl, rfl⟩ fun {before} label answer frame =>
      have same := before.deliver_frame label answer
      ⟨same.1.trans frame.1, same.2.1.trans frame.2.1, same.2.2.trans frame.2.2⟩

/-- A route asks for nothing but what concerns the session of the request. -/
theorem within_ask {request : Request} {route : Route} {session : String}
    {asked : Service.Request} (asks : request.ask session route = .ok asked) :
    Service.Machine.Within (· = session) (· = session) (.begin asked) := by
  have own (argument : String) :
      Service.Machine.Within (· = session) (· = session) (.begin (route.ask session argument)) := by
    cases route <;> constructor <;> intro other concerned <;> first
      | exact concerned.symm
      | exact concerned.elim
  unfold Request.ask at asks
  split at asks
  · rename_i name _
    cases argument : request.argument name with
    | error fault =>
        rw [argument] at asks
        cases asks
    | ok value =>
        rw [argument] at asks
        obtain rfl := Except.ok.inj asks
        exact own value
  · obtain rfl := Except.ok.inj asks
    exact own ""

/-- A request that is received asks the service for nothing, or for what concerns its session. -/
theorem receive_frame (application : Application) (label : String) (request : Request) :
    (application.receive label request).tokens = application.tokens ∧
      (application.receive label request).issued = (application.identify request).2.issued ∧
      ((application.receive label request).machine = application.machine ∨
        ∃ asked, (application.receive label request).machine =
            application.machine.submit label asked ∧
          Service.Machine.Within (· = (application.identify request).1.session)
            (· = (application.identify request).1.session) (.begin asked)) := by
  have identified := identify_snd application request
  unfold receive
  generalize application.identify request = admitted at identified ⊢
  rcases admitted with ⟨admission, admitting⟩
  dsimp only at identified ⊢
  have same : admitting.machine = application.machine := by rw [identified]
  have tokens : admitting.tokens = application.tokens := by rw [identified]
  split
  · exact ⟨tokens, rfl, Or.inl same⟩
  · exact ⟨tokens, rfl, Or.inl same⟩
  · exact ⟨tokens, rfl, Or.inl same⟩
  · split
    · exact ⟨tokens, rfl, Or.inl same⟩
    · rename_i asked asks
      exact ⟨tokens, rfl, Or.inr ⟨asked, congrArg (·.submit label asked) same, within_ask asks⟩⟩

end Application

/-! ## Networks -/

/-- Tokens are distinct, and made of characters that are safe in an address. -/
structure AreSecrets (tokens : Nat → String) : Prop where
  distinct : Function.Injective tokens
  safe : ∀ index, Cookie.isToken (tokens index) = true

/-- The application with its clients. -/
structure Network where
  application : Application
  /-- What each client keeps of the cookie. -/
  kept : Nat → Option String := fun _ => none
  /-- The requests that were sent, the latest at the end. -/
  sent : List Sending := []
  /-- The labels of requests whose responses clients have got. -/
  heard : List String := []
  /-- The labels of scans that the reaper has begun. -/
  scans : List String := []

/-- The label is that of a request that belongs to the session. -/
def Makes (sent : List Sending) (label session : String) : Prop :=
  ∃ sending ∈ sent, sending.label = label ∧ sending.admission.session = session

/-- The label is that of a request that belongs to the session, or of a scan. -/
def Owns (sent : List Sending) (scans : List String) (label session : String) : Prop :=
  Makes sent label session ∨ label ∈ scans

theorem Makes.append {sent : List Sending} {label session : String}
    (makes : Makes sent label session) (last : Sending) : Makes (sent ++ [last]) label session := by
  rcases makes with ⟨sending, member, own⟩
  exact ⟨sending, List.mem_append_left _ member, own⟩

namespace Network

/-- The name of the cookie. -/
def cookieName (network : Network) : String :=
  network.application.cookieName

/-- The entry of a session in the registry. -/
def session? (network : Network) (session : String) : Option Service.Session :=
  network.application.machine.world.session? session

/-- A client sends a request. -/
def send (network : Network) (label : String) (client : Nat) (request : Request) : Network :=
  { network with
    application := network.application.receive label request
    sent := network.sent ++
      [⟨label, client, request, (network.application.identify request).1⟩] }

/-- A client gets the response at a position. -/
def hear (network : Network) (position : Nat) (sending : Sending) (response : Response) :
    Network :=
  { network with
    application := { network.application with
      responses := network.application.responses.eraseIdx position }
    kept := Function.update network.kept sending.client
      (response.cookies.foldl (Cookie.kept network.cookieName) (network.kept sending.client))
    heard := network.heard ++ [sending.label] }

/-- The reaper begins a scan. -/
def scan (network : Network) (label : String) : Network :=
  { network with
    application := { network.application with
      machine := network.application.machine.submit label .scan }
    scans := network.scans ++ [label] }

/-- The label was not used before. -/
structure IsFresh (network : Network) (label : String) : Prop where
  sent : ∀ sending ∈ network.sent, sending.label ≠ label
  scans : label ∉ network.scans

/-- The response at the position is for the request. -/
structure Hears (network : Network) (position : Nat) (sending : Sending) (response : Response) :
    Prop where
  sent : sending ∈ network.sent
  given : network.application.responses[position]? = some (sending.label, response)

/-- What can happen. -/
inductive Step (network : Network) : Network → Prop where
  /-- A client sends a request, with what it keeps of the cookie. -/
  | send {label : String} {client : Nat} {request : Request} (fresh : network.IsFresh label)
      (sentBack : Dictionary.get? network.cookieName (Cookie.readAll request.cookies) =
        network.kept client) :
      Step network (network.send label client request)
  | hear {position : Nat} {sending : Sending} {response : Response}
      (hears : network.Hears position sending response) :
      Step network (network.hear position sending response)
  /-- An operation takes its turn, whichever it is of those that are ready. -/
  | turn {position : Nat} {application : Application}
      (resumed : network.application.resume position = some application) :
      Step network { network with application := application }
  /-- Time passes, and the reaper scans when that is due. -/
  | pass (span : Service.Time) :
      Step network { network with application := network.application.advance span }
  /-- The reaper begins a scan that takes turns like other operations. -/
  | scan {label : String} (fresh : network.IsFresh label) : Step network (network.scan label)

/-- What is true of clients and sessions at each moment. -/
structure Sound (network : Network) : Prop where
  secret : AreSecrets network.application.tokens
  traces : Traces network.application.tokens network.application.issued network.sent
    network.heard network.kept
  awaits : network.application.Awaits network.sent network.heard
  minds : network.application.machine.Minds (Owns network.sent network.scans) (Makes network.sent)

variable {network next : Network} {session : String} {client : Nat} {sending : Sending}
  {label : String}

/-! ## Steps -/

/-- What a client sends back is read as what it keeps, so that it can send requests. -/
theorem Sound.sentBack (sound : network.Sound) (valid : Cookie.isName network.cookieName = true)
    (client : Nat) :
    Dictionary.get? network.cookieName
        (Cookie.readAll (Cookie.sentBack network.cookieName (network.kept client))) =
      network.kept client := by
  refine Cookie.readAll_sentBack valid fun token holds => ?_
  rcases sound.traces.exists_token holds with ⟨index, -, rfl⟩
  exact sound.secret.safe index

/-- A client is admitted to the session that it keeps, or to a new one. -/
theorem Sound.identify (sound : network.Sound) {request : Request}
    (sentBack : Dictionary.get? network.cookieName (Cookie.readAll request.cookies) =
      network.kept client) :
    (∃ session, network.kept client = some session ∧
        network.application.identify request = (⟨session, false⟩, network.application)) ∨
      network.application.identify request =
        (⟨network.application.tokens network.application.issued, true⟩,
          { network.application with issued := network.application.issued + 1 }) := by
  unfold Application.identify
  change Dictionary.get? network.application.cookieName _ = _ at sentBack
  rw [sentBack]
  cases held : network.kept client with
  | none =>
      exact Or.inr rfl
  | some session =>
      rcases sound.traces.exists_token held with ⟨index, -, rfl⟩
      have filled : (network.application.tokens index).isEmpty = false := by
        simpa using (Bool.and_eq_true_iff.mp (sound.secret.safe index)).1
      refine Or.inl ⟨_, rfl, ?_⟩
      dsimp only
      rw [filled]
      rfl

/-- What is known of a request that a client sends. -/
structure Admits (network : Network) (last : Sending) (issued : Nat) : Prop where
  further : network.application.issued ≤ issued
  made : last.admission.isNew = true →
    last.admission.session = network.application.tokens network.application.issued ∧
      network.application.issued < issued
  presented : last.admission.isNew = false →
    network.kept last.client = some last.admission.session

theorem Sound.admits (sound : network.Sound) (label : String) {request : Request}
    (sentBack : Dictionary.get? network.cookieName (Cookie.readAll request.cookies) =
      network.kept client) :
    network.Admits ⟨label, client, request, (network.application.identify request).1⟩
      (network.application.identify request).2.issued := by
  rcases sound.identify sentBack with ⟨session, holds, identified⟩ | identified
  · rw [identified]
    exact ⟨Nat.le_refl _, nofun, fun _ => holds⟩
  · rw [identified]
    exact ⟨Nat.le_succ _, fun _ => ⟨rfl, Nat.lt_succ_self _⟩, nofun⟩

/-- A response that a client gets says about the cookie what may be said to its request. -/
theorem Sound.suits (sound : network.Sound) {position : Nat} {response : Response}
    (hears : network.Hears position sending response) :
    response.Suits network.cookieName sending ∧ sending.label ∉ network.heard := by
  rcases sound.awaits.responses _ (List.mem_of_getElem? hears.given) with
    ⟨⟨other, member, own, suits⟩, unheard⟩
  obtain rfl := sound.traces.labelled other member sending hears.sent own
  exact ⟨suits, unheard⟩

/-- A client keeps what it kept, or the session that was made for its request. -/
theorem Sound.learned (sound : network.Sound) {position : Nat} {response : Response}
    (hears : network.Hears position sending response) :
    ∀ client session, (network.hear position sending response).kept client = some session →
      network.kept client = some session ∨ Opens network.sent client session sending := by
  intro client session holds
  change Function.update network.kept sending.client _ client = _ at holds
  by_cases same : client = sending.client
  · subst same
    rw [Function.update_self] at holds
    cases (sound.suits hears).1 with
    | silent cookies =>
        rw [cookies] at holds
        exact Or.inl holds
    | introduces valid isNew cookies =>
        rcases sound.traces.issued sending hears.sent isNew with ⟨index, -, made⟩
        have safe := sound.secret.safe index
        rw [← made] at safe
        rw [cookies, List.foldl_cons, List.foldl_nil, Cookie.kept_setHeader valid safe] at holds
        exact Or.inr ⟨hears.sent, rfl, isNew, Option.some.inj holds⟩
    | clears valid ending cookies =>
        rw [cookies, List.foldl_cons, List.foldl_nil, Cookie.kept_clearHeader valid] at holds
        cases holds
  · rw [Function.update_of_ne same] at holds
    exact Or.inl holds

theorem Sound.send (sound : network.Sound) (fresh : network.IsFresh label) {request : Request}
    (sentBack : Dictionary.get? network.cookieName (Cookie.readAll request.cookies) =
      network.kept client) : (network.send label client request).Sound := by
  have admits := sound.admits label sentBack
  rcases network.application.receive_frame label request with ⟨tokens, issued, asked⟩
  have unheard : label ∉ network.heard := by
    intro since
    rcases sound.traces.heard label since with ⟨earlier, member, own⟩
    exact fresh.sent earlier member own
  have member : ⟨label, client, request, (network.application.identify request).1⟩ ∈
      (network.send label client request).sent :=
    List.mem_append_right _ List.mem_cons_self
  refine ⟨tokens ▸ sound.secret, ?_, sound.awaits.receive fresh.sent unheard client request, ?_⟩
  · change Traces (network.application.receive label request).tokens
      (network.application.receive label request).issued _ _ _
    rw [tokens, issued]
    exact sound.traces.send fresh.sent _ rfl admits.further admits.made sound.secret.distinct
      admits.presented
  · have before : network.application.machine.Minds
        (Owns (network.send label client request).sent network.scans)
        (Makes (network.send label client request).sent) :=
      sound.minds.mono (fun label session => Or.imp_left (·.append _))
        fun label session => (·.append _)
    change (network.application.receive label request).machine.Minds _ _
    rcases asked with same | ⟨asked, submitted, within⟩
    · exact same ▸ before
    · rw [submitted]
      refine before.submit ⟨fun other concerned => ?_, fun other registered => ?_⟩
      · exact Or.inl ⟨_, member, rfl, (within.concerns other concerned).symm⟩
      · exact ⟨_, member, rfl, (within.registers other registered).symm⟩

theorem Sound.hear (sound : network.Sound) {position : Nat} {response : Response}
    (hears : network.Hears position sending response) :
    (network.hear position sending response).Sound where
  secret := sound.secret
  traces := sound.traces.hear hears.sent (sound.learned hears)
  awaits := sound.awaits.hear hears.given
  minds := sound.minds

/-- What a turn does to the registry is regarded by the request or the scan that takes it. -/
theorem Sound.resume (sound : network.Sound) {position : Nat} {application : Application}
    (resumed : network.application.resume position = some application) :
    { network with application := application }.Sound ∧
      ∃ task, network.application.machine.ready[position]? = some task ∧
        network.application.machine.world.Regards task.work application.machine.world ∧
        Service.Machine.Within (Owns network.sent network.scans task.label)
          (Makes network.sent task.label) task.work := by
  rcases Option.map_eq_some_iff.mp resumed with ⟨machine, goesOn, rfl⟩
  rcases Option.map_eq_some_iff.mp goesOn with ⟨task, ready, -⟩
  rcases sound.minds.resume ready goesOn with ⟨minds, regards, within⟩
  rcases Application.collect_frame { network.application with machine := machine } with
    ⟨collected, tokens, issued⟩
  refine ⟨⟨?_, ?_, ?_, ?_⟩, task, ready, ?_, within⟩
  · change AreSecrets (Application.collect _).tokens
    rw [tokens]
    exact sound.secret
  · change Traces (Application.collect _).tokens (Application.collect _).issued _ _ _
    rw [tokens, issued]
    exact sound.traces
  · exact (sound.awaits.operate regards.settings).collect
  · change (Application.collect _).machine.Minds _ _
    rw [collected]
    exact minds
  · rw [collected]
    exact regards

theorem Sound.step (sound : network.Sound) (step : network.Step next) : next.Sound := by
  cases step with
  | send fresh sentBack =>
      exact sound.send fresh sentBack
  | hear hears =>
      exact sound.hear hears
  | turn resumed =>
      exact (sound.resume resumed).1
  | pass span =>
      have regards := network.application.machine.world.regards_advance span
      exact ⟨sound.secret, sound.traces, sound.awaits.operate regards.settings, sound.minds⟩
  | scan fresh =>
      rename_i label
      have before : network.application.machine.Minds (Owns network.sent (network.scans ++ [label]))
          (Makes network.sent) :=
        sound.minds.mono (fun _ _ => Or.imp_right (List.mem_append_left _)) fun _ _ => id
      refine ⟨sound.secret, sound.traces, sound.awaits.operate rfl, before.submit ⟨?_, nofun⟩⟩
      exact fun _ _ => Or.inr (List.mem_append_right _ List.mem_cons_self)

end Network

end DocumentGate.Http
