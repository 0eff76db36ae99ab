import Mathlib.Data.List.Infix
import ReviewDesk.Http.Exchange

/-!
What is sent for the requests that are asked for. A request by a scheme that is not of the web is not
sent; any other one is, and then goes on from address to address as long as the answers say so, ten
times at most. One that only asks for something never becomes one that changes something, and one
that is posted is posted again just where the answer to it says to repeat it.
-/

namespace ReviewDesk.Http

variable {server : Server} {request last next : Request} {before own log : List Request}
  {answer : Response} {moves : Nat}

/-- The request of the web that the answer to a request sends it on to. -/
def next? (server : Server) (request : Request) (before : List Request) : Option Request :=
  (((server (request :: before)).filter (·.isFinal)).bind request.movedBy?).filter (isWeb ·.url)

theorem follow_zero : (follow server 0 request before).2 = request :: before := by
  rw [follow.eq_def]
  dsimp only
  cases (server (request :: before)).filter (·.isFinal) with
  | none => rfl
  | some answer =>
      dsimp only
      cases request.movedBy? answer <;> rfl

theorem follow_succ : (follow server (moves + 1) request before).2 =
    (next? server request before).elim (request :: before)
      fun next => (follow server moves next (request :: before)).2 := by
  rw [follow.eq_def, next?]
  dsimp only
  cases (server (request :: before)).filter (·.isFinal) with
  | none => rfl
  | some answer =>
      rw [Option.bind_some]
      dsimp only
      cases request.movedBy? answer with
      | none => rfl
      | some next => cases web : isWeb next.url <;> simp [Option.filter, web]

/-- A request that is answered in the end, and is not sent on, comes to that answer. -/
theorem reply_of_answered (web : isWeb request.url = true)
    (answered : server (request :: sent server log) = some answer) (final : answer.isFinal = true)
    (stays : request.movedBy? answer = none) :
    reply server request log = .ok (answer.received request.method) := by
  rw [reply, deliver, if_pos web, follow.eq_def]
  dsimp only
  rw [answered, Option.filter_some_pos final]
  dsimp only
  rw [stays]

theorem reply_of_other (other : isWeb request.url = false) :
    reply server request log = .error (schemeFault request.url) := by
  rw [reply, deliver, if_neg (by simp [other])]

/-- What may be sent for a request, the last one first: the request itself, and each next one since
the answer to the one before sends it on. -/
inductive Trail (server : Server) (request : Request) (before : List Request) :
    List Request → Prop where
  | first : Trail server request before [request]
  | on {last next : Request} {own : List Request} (trail : Trail server request before (last :: own))
      (goes : next? server last (own ++ before) = some next) :
      Trail server request before (next :: last :: own)

/-- What is sent for a request: nothing if it is not of the web, and otherwise its trail up to where
no answer sends it on, or to the eleventh request. -/
inductive Sends (server : Server) (request : Request) (before : List Request) :
    List Request → Prop where
  | nothing (other : isWeb request.url = false) : Sends server request before []
  | trail {last : Request} {own : List Request} (web : isWeb request.url = true)
      (trail : Trail server request before (last :: own)) (few : own.length ≤ maxMoves)
      (ends : own.length < maxMoves → next? server last (own ++ before) = none) :
      Sends server request before (last :: own)

-- the moves that are left and those that were made are all of them
theorem Trail.sends_follow (web : isWeb request.url = true)
    (trail : Trail server request before (last :: own)) (all : own.length + moves = maxMoves) :
    ∃ own', Sends server request before own' ∧
      (follow server moves last (own ++ before)).2 = own' ++ before := by
  induction moves generalizing last own with
  | zero =>
      refine ⟨last :: own, .trail web trail (by omega) (fun few => by omega), ?_⟩
      rw [follow_zero]
      rfl
  | succ moves ih =>
      rw [follow_succ]
      cases goes : next? server last (own ++ before) with
      | none => exact ⟨last :: own, .trail web trail (by omega) (fun _ => goes), rfl⟩
      | some next =>
          have fewer : (last :: own).length + moves = maxMoves := by
            rw [List.length_cons]
            omega
          exact ih (trail.on goes) fewer

theorem sent_cons (server : Server) (request : Request) (log : List Request) :
    ∃ own, Sends server request (sent server log) own ∧
      sent server (request :: log) = own ++ sent server log := by
  rw [sent, deliver]
  cases web : isWeb request.url with
  | false => exact ⟨[], .nothing web, rfl⟩
  | true => exact Trail.first.sends_follow web (Nat.zero_add maxMoves)

theorem sends_ne_nil (web : isWeb request.url = true) (sends : Sends server request before own) :
    own ≠ [] := by
  cases sends with
  | nothing other => simp [web] at other
  | trail => exact List.cons_ne_nil _ _

/-- A trail goes on from the request, if it goes on at all. -/
theorem Trail.eq_or_goes_on (trail : Trail server request before own) :
    own = [request] ∨
      ∃ more second, own = more ++ [second, request] ∧ next? server request before = some second := by
  induction trail with
  | first => exact .inl rfl
  | @on last next own trail goes ih =>
      rcases ih with lone | ⟨more, second, longer, begins⟩
      · cases lone
        exact .inr ⟨[], next, rfl, goes⟩
      · exact .inr ⟨next :: more, second, congrArg (next :: ·) longer, begins⟩

/-- Only the request is sent where the answer to it does not send it on. -/
theorem sends_self_iff (web : isWeb request.url = true) (sends : Sends server request before own) :
    own = [request] ↔ next? server request before = none := by
  cases sends with
  | nothing other => simp [web] at other
  | @trail last own _ trail _ ends =>
      constructor
      · rintro ⟨⟩
        exact ends (by decide)
      · intro stays
        rcases trail.eq_or_goes_on with lone | ⟨_, _, _, goes⟩
        · exact lone
        · rw [stays] at goes
          cases goes

/-- The request asks for something and changes nothing. -/
structure Request.Asks (r : Request) : Prop where
  method : r.method = "GET"
  body : r.body = none

theorem Request.Asks.not_post (asks : request.Asks) : request.method ≠ "POST" := by
  rw [asks.method]
  decide

namespace Client

/-- The requests that change something. -/
def posts (log : List Request) : List Request :=
  log.filter (·.method = "POST")

theorem posts_append (after log : List Request) : posts (after ++ log) = posts after ++ posts log :=
  List.filter_append ..

theorem posts_cons_of_post (post : request.method = "POST") (log : List Request) :
    posts (request :: log) = request :: posts log :=
  List.filter_cons_of_pos (decide_eq_true post)

theorem posts_of_asks (asks : ∀ r ∈ log, r.Asks) : posts log = [] :=
  List.filter_eq_nil_iff.mpr fun r member posts => (asks r member).not_post (of_decide_eq_true posts)

end Client

theorem Request.Asks.moved (asks : request.Asks) (moved : request.movedBy? answer = some next) :
    next.Asks := by
  obtain ⟨url, -, moved⟩ := Option.bind_eq_some_iff.mp moved
  split at moved
  · cases moved
    exact ⟨asks.method, asks.body⟩
  split at moved
  · cases moved
    exact ⟨if_neg (by simp [asks.method]), rfl⟩
  split at moved
  · rw [if_neg (by simp [asks.method])] at moved
    cases moved
    exact ⟨asks.method, asks.body⟩
  · cases moved

/-- What is posted is repeated only where the answer says so, and only asked for otherwise. -/
theorem Request.movedBy?_of_post (post : request.method = "POST")
    (moved : request.movedBy? answer = some next) :
    (answer.status = 307 ∨ answer.status = 308) ∧ answer.location = some next.url ∧
        next = { request with url := next.url } ∨ next.Asks := by
  obtain ⟨url, there, moved⟩ := Option.bind_eq_some_iff.mp moved
  split at moved
  · rename_i again
    cases moved
    exact .inl ⟨again, there, rfl⟩
  split at moved
  · cases moved
    exact .inr ⟨if_neg (by simp [post]), rfl⟩
  split at moved
  · cases moved
    exact .inr ⟨rfl, rfl⟩
  · cases moved

/-- The answer to a request says to repeat it at another address of the web. -/
def Repeats (server : Server) (request : Request) (before : List Request) : Prop :=
  ∃ answer url, server (request :: before) = some answer ∧
    (answer.status = 307 ∨ answer.status = 308) ∧ answer.location = some url ∧ isWeb url = true

theorem next?_eq_some (goes : next? server request before = some next) :
    ∃ answer, server (request :: before) = some answer ∧ request.movedBy? answer = some next ∧
      isWeb next.url = true := by
  obtain ⟨moved, web⟩ := Option.filter_eq_some_iff.mp goes
  obtain ⟨answer, answered, moved⟩ := Option.bind_eq_some_iff.mp moved
  exact ⟨answer, (Option.filter_eq_some_iff.mp answered).1, moved, web⟩

theorem Repeats.next? (repeats : Repeats server request before) :
    ∃ url, next? server request before = some { request with url := url } := by
  obtain ⟨answer, url, answered, again, there, web⟩ := repeats
  have final : answer.isFinal = true := by
    rcases again with status | status <;> rw [Response.isFinal, status] <;> decide
  refine ⟨url, ?_⟩
  rw [Http.next?, answered, Option.filter_some_pos final, Option.bind_some, Request.movedBy?, there,
    Option.bind_some, if_pos again]
  exact Option.filter_some_pos web

/-- What is posted is repeated, or only asked for; and it is only asked for where the answer to it does
not say to repeat it. -/
theorem Trail.posted (post : request.method = "POST") (trail : Trail server request before own) :
    (∀ r ∈ own, r = { request with url := r.url } ∨ r.Asks) ∧
      (¬Repeats server request before →
        ∃ others, own = others ++ [request] ∧ ∀ r ∈ others, r.Asks) := by
  induction trail with
  | first => exact ⟨List.forall_mem_singleton.mpr (.inl rfl), fun _ => ⟨[], rfl, nofun⟩⟩
  | @on last next own trail goes ih =>
      obtain ⟨answer, answered, moved, web⟩ := next?_eq_some goes
      obtain ⟨kinds, once⟩ := ih
      refine ⟨List.forall_mem_cons.mpr ⟨?_, kinds⟩, fun unrepeated => ?_⟩
      · rcases (List.forall_mem_cons.mp kinds).1 with same | asks
        · have posted : last.method = "POST" := by rw [same]; exact post
          rcases Request.movedBy?_of_post posted moved with ⟨-, -, again⟩ | asks
          · rw [again, same]
            exact .inl rfl
          · exact .inr asks
        · exact .inr (asks.moved moved)
      · obtain ⟨others, behind, asking⟩ := once unrepeated
        refine ⟨next :: others, congrArg (next :: ·) behind, List.forall_mem_cons.mpr ⟨?_, asking⟩⟩
        cases others with
        | nil =>
            cases behind
            rcases Request.movedBy?_of_post post moved with ⟨again, there, -⟩ | asks
            · exact (unrepeated ⟨answer, next.url, answered, again, there, web⟩).elim
            · exact asks
        | cons other rest =>
            have asks := asking other List.mem_cons_self
            cases behind
            exact asks.moved moved

theorem Sends.posts_of_asks (sends : Sends server request before own) (asks : request.Asks) :
    Client.posts own = [] := by
  have quiet {own : List Request} (trail : Trail server request before own) :
      ∀ r ∈ own, r.Asks := by
    induction trail with
    | first => exact List.forall_mem_singleton.mpr asks
    | on trail goes ih =>
        obtain ⟨answer, -, moved, -⟩ := next?_eq_some goes
        exact List.forall_mem_cons.mpr ⟨(ih _ List.mem_cons_self).moved moved, ih⟩
  cases sends with
  | nothing => rfl
  | trail _ trail => exact Client.posts_of_asks (quiet trail)

theorem Trail.mem (trail : Trail server request before own) : request ∈ own := by
  rcases trail.eq_or_goes_on with lone | ⟨more, second, longer, -⟩
  · simp [lone]
  · simp [longer]

/-- What is posted is posted again if it goes on as its answer says. -/
theorem Trail.two_posts (post : request.method = "POST") (trail : Trail server request before own)
    (repeats : Repeats server request before) (longer : own ≠ [request]) :
    2 ≤ (Client.posts own).length := by
  obtain ⟨more, second, same, goes⟩ := trail.eq_or_goes_on.resolve_left longer
  obtain ⟨url, repeated⟩ := repeats.next?
  cases goes.symm.trans repeated
  have again : ({ request with url := url } : Request).method = "POST" := post
  rw [same, Client.posts_append, Client.posts_cons_of_post again, Client.posts_cons_of_post post,
    List.length_append]
  exact Nat.le_add_left _ _

/-- What is sent of what is posted: the request, and no other one that is posted just where the
answer to it does not say to repeat it. -/
theorem Sends.posts_of_post (sends : Sends server request before own) (web : isWeb request.url = true)
    (post : request.method = "POST") :
    (∀ r ∈ Client.posts own, r = { request with url := r.url }) ∧
      1 ≤ (Client.posts own).length ∧
      (Client.posts own = [request] ↔ ¬Repeats server request before) := by
  have alone := sends_self_iff web sends
  cases sends with
  | nothing other => simp [web] at other
  | @trail last own _ trail =>
      obtain ⟨kinds, once⟩ := trail.posted post
      refine ⟨fun r member => ?_, ?_, fun whole repeats => ?_, fun unrepeated => ?_⟩
      · obtain ⟨inside, isPost⟩ := List.mem_filter.mp member
        exact (kinds r inside).resolve_right fun asks => asks.not_post (of_decide_eq_true isPost)
      · exact List.length_pos_of_mem (List.mem_filter.mpr ⟨trail.mem, decide_eq_true post⟩)
      · have longer : last :: own ≠ [request] := by
          intro lone
          obtain ⟨url, goes⟩ := repeats.next?
          rw [alone.mp lone] at goes
          cases goes
        have two := trail.two_posts post repeats longer
        rw [whole, List.length_singleton] at two
        omega
      · obtain ⟨others, behind, asking⟩ := once unrepeated
        rw [behind, Client.posts_append, Client.posts_of_asks asking, Client.posts_cons_of_post post]
        rfl

theorem forall_suffix_cons {P : Request → List Request → Prop} :
    (∀ r before, r :: before <:+ request :: log → P r before) ↔
      P request log ∧ ∀ r before, r :: before <:+ log → P r before := by
  constructor
  · intro all
    exact ⟨all request log (List.suffix_refl _),
      fun r before inside => all r before (inside.trans (List.suffix_cons _ _))⟩
  · rintro ⟨first, others⟩ r before inside
    rcases List.suffix_cons_iff.mp inside with same | inside
    · cases same
      exact first
    · exact others r before inside

theorem sent_eq_nil (other : ∀ r ∈ log, isWeb r.url = false) : sent server log = [] := by
  induction log with
  | nil => rfl
  | cons request log ih =>
      obtain ⟨first, others⟩ := List.forall_mem_cons.mp other
      rw [sent, deliver, if_neg (by simp [first])]
      exact ih others

theorem length_le_sent (web : ∀ r ∈ log, isWeb r.url = true) :
    log.length ≤ (sent server log).length := by
  induction log with
  | nil => exact Nat.le_refl 0
  | cons request log ih =>
      obtain ⟨first, others⟩ := List.forall_mem_cons.mp web
      obtain ⟨own, sends, same⟩ := sent_cons server request log
      have some := List.length_pos_iff.mpr (sends_ne_nil first sends)
      have rest := ih others
      rw [same, List.length_append, List.length_cons]
      omega

/-- What is sent is what is asked for just where no answer sends a request on. -/
theorem sent_eq_self_iff (web : ∀ r ∈ log, isWeb r.url = true) :
    sent server log = log ↔ ∀ r before, r :: before <:+ log →
      next? server r (sent server before) = none := by
  induction log with
  | nil => exact ⟨fun _ r before inside => by simp at inside, fun _ => rfl⟩
  | cons request log ih =>
      obtain ⟨first, others⟩ := List.forall_mem_cons.mp web
      obtain ⟨own, sends, same⟩ := sent_cons server request log
      have some := List.length_pos_iff.mpr (sends_ne_nil first sends)
      have least : log.length ≤ (sent server log).length := length_le_sent others
      rw [forall_suffix_cons, ← ih others, ← sends_self_iff first sends, same]
      constructor
      · intro whole
        have length := congrArg List.length whole
        rw [List.length_append, List.length_cons] at length
        exact List.append_inj whole (by rw [List.length_singleton]; omega)
      · rintro ⟨rfl, rest⟩
        rw [rest]
        rfl

/-- Of requests that ask or post, what is posted is sent, and it is sent once just where no answer says
to repeat it. Whatever else is sent so is a repetition. -/
theorem posts_sent (web : ∀ r ∈ log, isWeb r.url = true)
    (kinds : ∀ r ∈ log, r.Asks ∨ r.method = "POST") :
    (∀ r ∈ Client.posts (sent server log),
      ∃ p ∈ Client.posts log, r = { p with url := r.url }) ∧
    (Client.posts log).length ≤ (Client.posts (sent server log)).length ∧
    (Client.posts (sent server log) = Client.posts log ↔ ∀ p before, p :: before <:+ log →
      p.method = "POST" → ¬Repeats server p (sent server before)) := by
  induction log with
  | nil => exact ⟨nofun, Nat.le_refl 0, fun _ p before inside => by simp at inside, fun _ => rfl⟩
  | cons request log ih =>
      obtain ⟨first, others⟩ := List.forall_mem_cons.mp web
      obtain ⟨kind, rest⟩ := List.forall_mem_cons.mp kinds
      obtain ⟨own, sends, same⟩ := sent_cons server request log
      obtain ⟨again, least, once⟩ := ih others rest
      rw [forall_suffix_cons, same, Client.posts_append, ← once]
      rcases kind with asks | post
      · have quiet : Client.posts (request :: log) = Client.posts log :=
          List.filter_cons_of_neg (by simp [asks.method])
        rw [sends.posts_of_asks asks, quiet, List.nil_append]
        exact ⟨again, least, fun whole => ⟨fun post => (asks.not_post post).elim, whole⟩, And.right⟩
      · obtain ⟨repeated, some, lone⟩ := sends.posts_of_post first post
        rw [Client.posts_cons_of_post post]
        refine ⟨fun r member => ?_, ?_, fun whole => ?_, fun both => ?_⟩
        · rcases List.mem_append.mp member with new | before
          · exact ⟨request, List.mem_cons_self, repeated r new⟩
          · obtain ⟨p, inside, same⟩ := again r before
            exact ⟨p, List.mem_cons_of_mem _ inside, same⟩
        · rw [List.length_append, List.length_cons]
          omega
        · have length := congrArg List.length whole
          rw [List.length_append, List.length_cons] at length
          have single : (Client.posts own).length = [request].length := by
            rw [List.length_singleton]
            omega
          obtain ⟨alone, before⟩ : Client.posts own = [request] ∧
              Client.posts (sent server log) = Client.posts log := List.append_inj whole single
          exact ⟨fun _ => lone.mp alone, before⟩
        · rw [lone.mpr (both.1 post), both.2]
          rfl

end ReviewDesk.Http
