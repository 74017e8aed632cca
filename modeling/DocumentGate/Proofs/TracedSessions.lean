import DocumentGate.Proofs.AwaitedResponses
import Mathlib.Logic.Function.Basic

/-!
# Sessions that are traced to requests

Every session that a request was admitted to was made for a request of the same client: for the
request itself, or for one whose response the client had got by then.  As tokens are distinct, it
was made for that request only.

A session has expired when its client has got the response to the request that it was made for, and
no client keeps it.  Then nobody presents it any more.
-/

namespace DocumentGate.Http

/-- The session was made for the request, which the client has sent. -/
structure Opens (sent : List Sending) (client : Nat) (session : String) (first : Sending) :
    Prop where
  sent : first ∈ sent
  client : first.client = client
  isNew : first.admission.isNew = true
  session : first.admission.session = session

/-- What is known of the sessions that requests were admitted to and that clients keep. -/
structure Traces (tokens : Nat → String) (issued : Nat) (sent : List Sending) (heard : List String)
    (kept : Nat → Option String) : Prop where
  issued : ∀ sending ∈ sent, sending.admission.isNew = true →
    ∃ index < issued, sending.admission.session = tokens index
  /-- A session is made for one request only. -/
  alone : ∀ {client other session first second}, Opens sent client session first →
    Opens sent other session second → first = second
  traced : ∀ sending ∈ sent, ∃ first,
    Opens sent sending.client sending.admission.session first ∧
      (first = sending ∨ first.label ∈ heard)
  kept : ∀ client session, kept client = some session →
    ∃ first, Opens sent client session first ∧ first.label ∈ heard
  labelled : ∀ sending ∈ sent, ∀ other ∈ sent, sending.label = other.label → sending = other
  heard : ∀ label ∈ heard, ∃ sending ∈ sent, sending.label = label

/-- The client has got the session, and nobody keeps it. -/
structure Expired (sent : List Sending) (heard : List String) (kept : Nat → Option String)
    (session : String) : Prop where
  opened : ∃ client first, Opens sent client session first ∧ first.label ∈ heard
  dropped : ∀ client, kept client ≠ some session

variable {tokens : Nat → String} {issued client other : Nat} {sent : List Sending}
  {heard : List String} {kept : Nat → Option String} {session label : String}
  {first sending : Sending} {request : Request}

theorem Opens.append (opens : Opens sent client session first) (last : Sending) :
    Opens (sent ++ [last]) client session first :=
  ⟨List.mem_append_left _ opens.sent, opens.client, opens.isNew, opens.session⟩

/-- The session was made for an earlier request or for the last one. -/
theorem Opens.cases {last : Sending} (opens : Opens (sent ++ [last]) client session first) :
    Opens sent client session first ∨
      first = last ∧ last.admission.isNew = true ∧ last.admission.session = session := by
  rcases List.mem_append.mp opens.sent with before | now
  · exact Or.inl ⟨before, opens.client, opens.isNew, opens.session⟩
  · obtain rfl := List.mem_singleton.mp now
    exact Or.inr ⟨rfl, opens.isNew, opens.session⟩

namespace Traces

theorem nothing (tokens : Nat → String) : Traces tokens 0 [] [] fun _ => none where
  issued := nofun
  alone opens := nomatch opens.sent
  traced := nofun
  kept := nofun
  labelled := nofun
  heard := nofun

variable (traces : Traces tokens issued sent heard kept)

include traces

/-- A client that presents a session is the one that it was made for. -/
theorem client_eq (member : sending ∈ sent) {second : Sending} (among : second ∈ sent)
    (same : sending.admission.session = second.admission.session) :
    sending.client = second.client := by
  rcases traces.traced sending member with ⟨first, opens, -⟩
  rcases traces.traced second among with ⟨other, reopens, -⟩
  rw [← same] at reopens
  obtain rfl := traces.alone opens reopens
  exact opens.client.symm.trans reopens.client

/-- Clients keep tokens. -/
theorem exists_token (holds : kept client = some session) :
    ∃ index < issued, session = tokens index := by
  rcases traces.kept client session holds with ⟨first, opens, -⟩
  rcases traces.issued first opens.sent opens.isNew with ⟨index, below, same⟩
  exact ⟨index, below, opens.session.symm.trans same⟩

/-! ## Requests that are sent -/

theorem labelled_append (fresh : ∀ sending ∈ sent, sending.label ≠ label) (last : Sending)
    (own : last.label = label) :
    ∀ sending ∈ sent ++ [last], ∀ other ∈ sent ++ [last], sending.label = other.label →
      sending = other := by
  subst own
  intro sending member other among same
  rcases List.mem_append.mp member with before | now <;>
    rcases List.mem_append.mp among with earlier | latest
  · exact traces.labelled sending before other earlier same
  · obtain rfl := List.mem_singleton.mp latest
    exact absurd same (fresh sending before)
  · obtain rfl := List.mem_singleton.mp now
    exact absurd same.symm (fresh other earlier)
  · rw [List.mem_singleton.mp now, List.mem_singleton.mp latest]

/-- What goes on as before where a request is sent. -/
theorem send {more : Nat} (fresh : ∀ sending ∈ sent, sending.label ≠ label) (last : Sending)
    (own : last.label = label) (further : issued ≤ more)
    (made : last.admission.isNew = true → last.admission.session = tokens issued ∧ issued < more)
    (distinct : Function.Injective tokens)
    (presented : last.admission.isNew = false →
      kept last.client = some last.admission.session) :
    Traces tokens more (sent ++ [last]) heard kept where
  issued sending member isNew := by
    rcases List.mem_append.mp member with before | now
    · rcases traces.issued sending before isNew with ⟨index, below, same⟩
      exact ⟨index, Nat.lt_of_lt_of_le below further, same⟩
    · obtain rfl := List.mem_singleton.mp now
      exact ⟨issued, (made isNew).2, (made isNew).1⟩
  alone {client other session first second} opens reopens := by
    -- the token of the last request was not made before
    have apart {client first} (opens : Opens sent client session first)
        (isNew : last.admission.isNew = true) : last.admission.session ≠ session := by
      intro same
      rcases traces.issued first opens.sent opens.isNew with ⟨index, below, token⟩
      rw [opens.session, ← same, (made isNew).1] at token
      exact absurd (distinct token) (Nat.ne_of_gt below)
    rcases opens.cases with before | ⟨rfl, isNew, own⟩ <;>
      rcases reopens.cases with earlier | ⟨rfl, latest, same⟩
    · exact traces.alone before earlier
    · exact absurd same (apart before latest)
    · exact absurd own (apart earlier isNew)
    · rfl
  traced sending member := by
    rcases List.mem_append.mp member with before | now
    · rcases traces.traced sending before with ⟨first, opens, since⟩
      exact ⟨first, opens.append last, since⟩
    · obtain rfl := List.mem_singleton.mp now
      cases isNew : sending.admission.isNew with
      | true =>
          exact ⟨sending, ⟨member, rfl, isNew, rfl⟩, Or.inl rfl⟩
      | false =>
          rcases traces.kept _ _ (presented isNew) with ⟨first, opens, since⟩
          exact ⟨first, opens.append sending, Or.inr since⟩
  kept client session holds := by
    rcases traces.kept client session holds with ⟨first, opens, since⟩
    exact ⟨first, opens.append last, since⟩
  labelled := traces.labelled_append fresh last own
  heard label since := by
    rcases traces.heard label since with ⟨sending, member, own⟩
    exact ⟨sending, List.mem_append_left _ member, own⟩

/-! ## Responses that clients get -/

/-- A client that gets a response keeps what it kept, or the session made for its request. -/
theorem hear (member : sending ∈ sent) {keeps : Nat → Option String}
    (learned : ∀ client session, keeps client = some session →
      kept client = some session ∨ Opens sent client session sending) :
    Traces tokens issued sent (heard ++ [sending.label]) keeps where
  issued := traces.issued
  alone := traces.alone
  traced sending member := by
    rcases traces.traced sending member with ⟨first, opens, since⟩
    exact ⟨first, opens, since.imp_right (List.mem_append_left _)⟩
  kept client session holds := by
    rcases learned client session holds with before | opens
    · rcases traces.kept client session before with ⟨first, opens, since⟩
      exact ⟨first, opens, List.mem_append_left _ since⟩
    · exact ⟨sending, opens, List.mem_append_right _ List.mem_cons_self⟩
  labelled := traces.labelled
  heard label since := by
    rcases List.mem_append.mp since with before | now
    · exact traces.heard label before
    · exact ⟨sending, member, (List.mem_singleton.mp now).symm⟩

/-- A client that drops a session which was made for it is the last that kept it. -/
theorem expired (member : sending ∈ sent) {keeps : Nat → Option String}
    (owned : ∃ first, Opens sent sending.client session first ∧
      (first = sending ∨ first.label ∈ heard))
    (drops : keeps sending.client = none)
    (others : ∀ other, other ≠ sending.client → keeps other = kept other) :
    Expired sent (heard ++ [sending.label]) keeps session := by
  rcases owned with ⟨first, opens, since⟩
  refine ⟨⟨sending.client, first, opens, ?_⟩, fun other holds => ?_⟩
  · rcases since with rfl | before
    · exact List.mem_append_right _ List.mem_cons_self
    · exact List.mem_append_left _ before
  · by_cases same : other = sending.client
    · rw [same, drops] at holds
      cases holds
    · rw [others other same] at holds
      rcases traces.kept other session holds with ⟨second, reopens, -⟩
      obtain rfl := traces.alone opens reopens
      exact same (reopens.client.symm.trans opens.client)

end Traces

namespace Expired

variable (expired : Expired sent heard kept session)
  (traces : Traces tokens issued sent heard kept)

include expired traces

/-- A request that is sent is not for a session that has expired. -/
theorem session_ne {last : Sending}
    (made : last.admission.isNew = true → last.admission.session = tokens issued)
    (distinct : Function.Injective tokens)
    (presented : last.admission.isNew = false →
      kept last.client = some last.admission.session) :
    last.admission.session ≠ session := by
  intro same
  cases isNew : last.admission.isNew with
  | false =>
      exact expired.dropped last.client (same ▸ presented isNew)
  | true =>
      rcases expired.opened with ⟨client, first, opens, -⟩
      rcases traces.issued first opens.sent opens.isNew with ⟨index, below, token⟩
      rw [opens.session, ← same, made isNew] at token
      exact absurd (distinct token) (Nat.ne_of_gt below)

omit traces in
theorem send (last : Sending) : Expired (sent ++ [last]) heard kept session := by
  rcases expired.opened with ⟨client, first, opens, since⟩
  exact ⟨⟨client, first, opens.append last, since⟩, expired.dropped⟩

/-- No client gets a session that has expired. -/
theorem hear (unheard : sending.label ∉ heard) {keeps : Nat → Option String}
    (learned : ∀ client session, keeps client = some session →
      kept client = some session ∨ Opens sent client session sending) :
    Expired sent (heard ++ [sending.label]) keeps session := by
  rcases expired.opened with ⟨client, first, opens, since⟩
  refine ⟨⟨client, first, opens, List.mem_append_left _ since⟩, fun other holds => ?_⟩
  rcases learned other session holds with before | reopens
  · exact expired.dropped other before
  · obtain rfl := traces.alone opens reopens
    exact unheard since

end Expired

end DocumentGate.Http
