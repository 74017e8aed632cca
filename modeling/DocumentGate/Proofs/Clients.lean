import DocumentGate.Proofs.Networks

/-!
# Clients and their sessions

As long as tokens are distinct, a session belongs to the one client that it was made for: nobody
else presents it, is given it or keeps it.  Nobody presents it any more once its client was told to
drop the cookie.  Its entry in the registry is made, changed and taken out by requests of that
client, or it is changed or taken out by the reaper.
-/

namespace DocumentGate.Http

/-! ## The beginning -/

/-- One turn starts what runs in the background, and nothing is left to do. -/
theorem settle_start (world : Service.World) :
    (Service.Machine.submit { world := world } "" .start).settle =
      { world := { world.startReaper 0 with reporting := true }
        answers := [("", .value .null)] } := by
  have limit : (Service.Machine.submit { world := world } "" .start).turnLimit =
      4 * world.sessions.length + 18 + 2 := by
    simp [Service.Machine.turnLimit, Service.Machine.submit, Service.Machine.later]
    omega
  rw [Service.Machine.settle, limit]
  rfl

/-- Nobody waits for an application that was started. -/
theorem Application.started_eq (world : Service.World) (tokens : Nat → String) :
    Application.started world tokens =
      { machine := { world := { world.startReaper 0 with reporting := true } }
        tokens := tokens } := by
  unfold Application.started Application.conduct Application.settle
  rw [settle_start]
  rfl

namespace Network

variable {network next start : Network} {session : String} {sending : Sending}
  {position : Nat} {response : Response}

/-- An application that was started, with clients that have no cookie yet. -/
def started (settings : Settings) (server : Postgres.Server) (clusters : Clusters)
    (tokens : Nat → String) : Network where
  application := .started (.ofSettings settings server clusters) tokens

theorem sound_started (settings : Settings) (server : Postgres.Server) (clusters : Clusters)
    {tokens : Nat → String} (secret : AreSecrets tokens) :
    (started settings server clusters tokens).Sound := by
  unfold started
  rw [Application.started_eq]
  exact ⟨secret, .nothing tokens, ⟨nofun, nofun, List.nodup_nil⟩,
    fun _ member => absurd member List.not_mem_nil⟩

theorem Sound.run (sound : start.Sound) (steps : Relation.ReflTransGen Step start network) :
    network.Sound := by
  induction steps with
  | refl =>
      exact sound
  | tail _ step ih =>
      exact ih.step step

/-! ## Cookies that are dropped -/

/-- A client gets a response that lets its cookie expire. -/
structure Drops (network : Network) (position : Nat) (sending : Sending) (response : Response) :
    Prop where
  hears : network.Hears position sending response
  clears : Cookie.clearHeader network.cookieName ∈ response.cookies

/-- Requests that were sent since are of other sessions, and nobody keeps the session. -/
structure Forgets (before network : Network) (session : String) : Prop where
  sent : ∃ later, network.sent = before.sent ++ later ∧
    ∀ sending ∈ later, sending.admission.session ≠ session
  kept : ∀ client, network.kept client ≠ some session

/-- Only a request to end a session has its client drop the cookie, and then it keeps nothing. -/
theorem Sound.drops (sound : network.Sound) (drops : network.Drops position sending response) :
    sending.request.destination = .route .endSession ∧
      (network.hear position sending response).kept sending.client = none := by
  have here :
      (network.hear position sending response).kept sending.client =
        response.cookies.foldl (Cookie.kept network.cookieName) (network.kept sending.client) :=
    Function.update_self ..
  cases (sound.suits drops.hears).1 with
  | silent cookies =>
      exact absurd drops.clears (cookies ▸ List.not_mem_nil)
  | introduces valid isNew cookies =>
      rcases sound.traces.issued sending drops.hears.sent isNew with ⟨index, -, made⟩
      have safe := sound.secret.safe index
      rw [← made] at safe
      have same := List.mem_singleton.mp (cookies ▸ drops.clears)
      have kept := Cookie.kept_setHeader valid safe none
      rw [← same, Cookie.kept_clearHeader valid] at kept
      cases kept
  | clears valid ending cookies =>
      refine ⟨ending, here.trans ?_⟩
      rw [cookies]
      exact Cookie.kept_clearHeader valid _

/-- The session of the request has expired then, and so has the one that the client kept. -/
theorem Sound.expired (sound : network.Sound) (drops : network.Drops position sending response)
    (own : sending.admission.session = session ∨ network.kept sending.client = some session) :
    Expired (network.hear position sending response).sent
      (network.hear position sending response).heard
      (network.hear position sending response).kept session := by
  refine sound.traces.expired drops.hears.sent ?_ (sound.drops drops).2 fun other different =>
    Function.update_of_ne different ..
  rcases own with rfl | holds
  · exact sound.traces.traced sending drops.hears.sent
  · rcases sound.traces.kept _ session holds with ⟨first, opens, since⟩
    exact ⟨first, opens, Or.inr since⟩

/-- A request of another session does not use it. -/
theorem Forgets.append {before : Network} (forgets : Forgets before network session)
    {last : Sending} (other : last.admission.session ≠ session) :
    ∃ later, network.sent ++ [last] = before.sent ++ later ∧
      ∀ sending ∈ later, sending.admission.session ≠ session := by
  rcases forgets.sent with ⟨later, since, unused⟩
  refine ⟨later ++ [last], ?_, fun sending member => ?_⟩
  · rw [since, List.append_assoc]
  · rcases List.mem_append.mp member with earlier | now
    · exact unused sending earlier
    · exact List.mem_singleton.mp now ▸ other

/-- A step does not use a session that has expired. -/
theorem Sound.forgets_step (sound : network.Sound) {before : Network}
    (expired : Expired network.sent network.heard network.kept session)
    (forgets : Forgets before network session) (step : network.Step next) :
    Expired next.sent next.heard next.kept session ∧ Forgets before next session := by
  cases step with
  | send fresh sentBack =>
      rename_i label client request
      have admits := sound.admits label sentBack
      have other := expired.session_ne sound.traces (fun isNew => (admits.made isNew).1)
        sound.secret.distinct admits.presented
      exact ⟨expired.send _, forgets.append other, forgets.kept⟩
  | hear hears =>
      have heard := expired.hear sound.traces (sound.suits hears).2 (sound.learned hears)
      exact ⟨heard, forgets.sent, heard.dropped⟩
  | turn | pass | scan =>
      exact ⟨expired, forgets.sent, forgets.kept⟩

theorem Sound.forgets (sound : start.Sound)
    (expired : Expired start.sent start.heard start.kept session)
    (steps : Relation.ReflTransGen Step start network) :
    Expired network.sent network.heard network.kept session ∧ Forgets start network session := by
  induction steps with
  | refl =>
      exact ⟨expired, ⟨[], (List.append_nil _).symm, nofun⟩, expired.dropped⟩
  | tail before step ih =>
      exact (sound.run before).forgets_step ih.1 ih.2 step

/-! ## Entries of sessions -/

/-- Who may do what to the entry of a session. -/
inductive Handles (network : Network) (session : String) : Network → Prop where
  /-- A request of the session takes a turn. -/
  | client {position : Nat} {task : Service.Task} {application : Application}
      (ready : network.application.machine.ready[position]? = some task)
      (resumed : network.application.resume position = some application)
      (own : Makes network.sent task.label session) :
      Handles network session { network with application := application }
  /-- A scan of the reaper takes a turn; the entry was there before. -/
  | scan {position : Nat} {task : Service.Task} {application : Application}
      (ready : network.application.machine.ready[position]? = some task)
      (resumed : network.application.resume position = some application)
      (scans : task.label ∈ network.scans) (there : network.session? session ≠ none) :
      Handles network session { network with application := application }
  /-- The reaper scans while time passes; the entry was there before. -/
  | pass (span : Service.Time) (there : network.session? session ≠ none) :
      Handles network session
        { network with application := network.application.advance span }

/-- An entry is not changed in any other way. -/
theorem Sound.handles (sound : network.Sound) (step : network.Step next)
    (changed : next.session? session ≠ network.session? session) :
    network.Handles session next := by
  cases step with
  | send fresh sentBack =>
      rename_i label client request
      rcases (network.application.receive_frame label request).2.2 with same | ⟨asked, same, -⟩ <;>
        exact absurd (congrArg (·.world.session? session) same) changed
  | hear | scan =>
      exact absurd rfl changed
  | turn resumed =>
      rcases sound.resume resumed with ⟨-, task, ready, regards, within⟩
      by_cases there : network.session? session = none
      · have registered := regards.made session there (there ▸ changed)
        exact .client ready resumed (within.registers session registered)
      · have concerned : task.work.Concerns session := by
          by_contra other
          exact changed (regards.others session other)
        exact (within.concerns session concerned).elim (.client ready resumed)
          (.scan ready resumed · there)
  | pass span =>
      refine .pass span fun missing => ?_
      exact (network.application.machine.world.regards_advance span).made session missing
        (missing ▸ changed)

/-! ## Clients -/

/-- Clients do not share sessions. -/
structure Separates (start network : Network) : Prop where
  /-- Requests that present a session or are given it are of one client. -/
  apart : ∀ sending ∈ network.sent, ∀ other ∈ network.sent,
    sending.admission.session = other.admission.session → sending.client = other.client
  /-- Clients keep sessions of their own. -/
  kept : ∀ client other session, network.kept client = some session →
    network.kept other = some session → client = other
  /-- A session is not used any more after a request to end it had its client drop the cookie. -/
  ended : ∀ before position sending response session, Relation.ReflTransGen Step start before →
    before.Drops position sending response →
    Relation.ReflTransGen Step (before.hear position sending response) network →
    (sending.admission.session = session ∨ before.kept sending.client = some session) →
    sending.request.destination = .route .endSession ∧
      Forgets (before.hear position sending response) network session
  /-- The entry of a session is changed by its own requests or by the reaper. -/
  handled : ∀ next session, network.Step next → next.session? session ≠ network.session? session →
    network.Handles session next

/-- However clients send requests and get responses, they do not share sessions. -/
theorem separates (settings : Settings) (server : Postgres.Server) (clusters : Clusters)
    {tokens : Nat → String} (secret : AreSecrets tokens)
    (steps : Relation.ReflTransGen Step (started settings server clusters tokens) network) :
    Separates (started settings server clusters tokens) network := by
  have initial := sound_started settings server clusters secret
  have sound := initial.run steps
  refine ⟨?_, ?_, ?_, fun next session => sound.handles⟩
  · intro sending member other among same
    exact sound.traces.client_eq member among same
  · intro client other session holds also
    rcases sound.traces.kept client session holds with ⟨first, opens, -⟩
    rcases sound.traces.kept other session also with ⟨second, reopens, -⟩
    exact opens.client.symm.trans (sound.traces.alone opens reopens ▸ reopens.client)
  · intro before position sending response session earlier drops later own
    have reached := initial.run earlier
    refine ⟨(reached.drops drops).1, ?_⟩
    exact ((reached.hear drops.hears).forgets (reached.expired drops own) later).2

/-- The network after the first of what is ready has had a turn. -/
def afterTurn (network : Network) : Network :=
  match network.application.resume 0 with
  | some application => { network with application := application }
  | none => network

theorem steps_afterTurn (steps : Relation.ReflTransGen Step start network) :
    Relation.ReflTransGen Step start network.afterTurn := by
  unfold afterTurn
  split
  · rename_i application resumed
    exact steps.tail (.turn resumed)
  · exact steps

/-- The network after a client has got the first of the responses. -/
def afterResponse (network : Network) : Network :=
  match network.application.responses[0]? with
  | some (label, response) =>
    match network.sent.find? (·.label == label) with
    | some sending => network.hear 0 sending response
    | none => network
  | none => network

theorem steps_afterResponse (steps : Relation.ReflTransGen Step start network) :
    Relation.ReflTransGen Step start network.afterResponse := by
  unfold afterResponse
  split
  · rename_i label response given
    split
    · rename_i sending found
      have own : sending.label = label := by
        simpa using List.find?_some found
      exact steps.tail (.hear ⟨List.mem_of_find?_eq_some found, own ▸ given⟩)
    · exact steps
  · exact steps

/-- A request to connect to a cluster in memory. -/
def connecting (held : Option String) : Request where
  method := "POST"
  path := "/databases/connect"
  body := "\x7b\"connectionString\": \"memory://local/app\"\x7d".toUTF8.toList
  cookies := Cookie.sentBack "docproxy_session" held

/-- A request to end a session. -/
def leaving (held : Option String) : Request where
  method := "POST"
  path := "/databases/end-session"
  cookies := Cookie.sentBack "docproxy_session" held

/-- Tokens that are longer and longer. -/
def longerTokens (index : Nat) : String :=
  String.ofList (List.replicate (index + 1) 'a')

theorem areSecrets_longerTokens : AreSecrets longerTokens where
  distinct index other same := by
    have lengths := congrArg List.length (String.ofList_injective same)
    simpa using lengths
  safe index := by
    simp [longerTokens, Cookie.isToken]

/-- An application in which nothing has happened yet. -/
def unvisited : Network :=
  started .defaults {} [("local", [])] longerTokens

/-- Two clients connect at the same time. -/
def visited : Network :=
  ((unvisited.send "first" 0 (connecting none)).send "second" 1
    (connecting none)).afterTurn.afterTurn.afterResponse.afterResponse

/-- One of them ends its session. -/
def departed : Network :=
  (visited.send "third" 0 (leaving (some "a"))).afterTurn.afterResponse

theorem separates_departed :
    (departed.kept 0, departed.kept 1, Dictionary.names departed.application.machine.world.sessions) =
        (none, some "aa", ["aa"]) ∧
      Separates unvisited departed := by
  have together : Relation.ReflTransGen Step unvisited
      ((unvisited.send "first" 0 (connecting none)).send "second" 1 (connecting none)) :=
    .tail (.single (.send ⟨nofun, nofun⟩ rfl)) (.send ⟨by decide +kernel, nofun⟩ rfl)
  have connected : Relation.ReflTransGen Step unvisited visited :=
    steps_afterResponse (steps_afterResponse (steps_afterTurn (steps_afterTurn together)))
  have ending : Step visited (visited.send "third" 0 (leaving (some "a"))) :=
    .send ⟨by decide +kernel, by decide +kernel⟩ (by decide +kernel)
  have steps : Relation.ReflTransGen Step unvisited departed :=
    steps_afterResponse (steps_afterTurn (connected.tail ending))
  exact ⟨by decide +kernel, separates .defaults {} [("local", [])] areSecrets_longerTokens steps⟩

end Network

end DocumentGate.Http
