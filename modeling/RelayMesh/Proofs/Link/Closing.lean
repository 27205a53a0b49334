import RelayMesh.Link.Basic
import RelayMesh.Proofs.Run

/-!
# Closing is final

The requests that a link takes, in any order and number, and what is left of a
link that was closed.  The media engine is asked anew at each request, so the
laws hold whatever its answers are, and whether or not the connection shuts
down without a failure.

* `carryOut_of_unconnected` says that a link without a connection refuses what
  needs one and stays as it is.  Both halves of the result rest on it: a link
  has no connection before one is created, and none after it was closed.
* `Spent` is what closing leaves, and `Spent.carryOut` says that no request
  moves a spent link.
* `run_of_untouched` says that nothing moves a new link but the creation of
  its connection and its closing.
* `close_is_final` is the result, over all runs.
-/

namespace RelayMesh

namespace Link

/-! ## Requests -/

/-- A request to a link.  The candidates of the other side that come with a wish for an answer are
left out: those that cannot be taken are skipped, and the others change nothing here. -/
inductive Request where
  | create
  | addAudioTrack
  | addVideoTrack (codec : CodecKind)
  | setRemote (payload : String)
  | createOffer
  | createAnswer
  | addCandidate (candidate : String)
  | send (media : MediaKind) (payload : Payload)
  | sendPayload (source : CodecConfig) (payload : Payload)
  | preferredCodec
  | close
deriving DecidableEq

/-- What a request gives that succeeds. -/
inductive Reply where
  | done
  | kind (kind : DescriptionKind)
  | described (description : LocalDescription)
  | sent (bytes : Nat)
  | format (config : CodecConfig)
deriving DecidableEq

/-- A request that gives a new link, or else leaves the link as it is. -/
def keep (link : Link) (outcome : Except RelayError Link) : Except RelayError Reply × Link :=
  match outcome with
  | .ok after => (.ok .done, after)
  | .error e => (.error e, link)

/-- Carries out a request. -/
def carryOut (engine : MediaEngine) (link : Link) : Request → Except RelayError Reply × Link
  | .create => link.keep (link.create engine)
  | .addAudioTrack => link.keep link.addAudioTrack
  | .addVideoTrack codec => link.keep (link.addVideoTrack codec)
  | .setRemote payload => (link.setRemote engine payload).map (Except.map .kind) id
  | .createOffer => (link.createOffer engine).map (Except.map .described) id
  | .createAnswer => (link.createAnswer engine).map (Except.map .described) id
  | .addCandidate candidate =>
    ((link.addCandidate engine candidate).map (fun _ => .done), link)
  | .send media payload => (.ok (.sent (link.send media payload)), link)
  | .sendPayload source payload => ((link.sendPayload source payload).map .sent, link)
  | .preferredCodec => (link.preferredCodec.map .format, link)
  | .close => (link.release engine).map (Except.map (fun _ => .done)) id

/-- Carries out requests one after another, each with the engine as it is then. -/
def run (link : Link) (requests : List (MediaEngine × Request)) : Link :=
  requests.foldl (fun link asked => (link.carryOut asked.1 asked.2).2) link

/-- Whether a request is for the connection of a link. -/
def Request.needsConnection : Request → Bool
  | .create | .send .. | .sendPayload .. | .close => false
  | _ => true

/-- How a link that was closed answers: it creates, makes and takes nothing and sends no byte, and
closing it again succeeds. -/
def Request.Denied (request : Request) (answer : Except RelayError Reply) : Prop :=
  match request with
  | .create => answer = .error .connectionClosed
  | .close => answer = .ok .done
  | .send .. => answer = .ok (.sent 0)
  | .sendPayload .. => answer = .ok (.sent 0) ∨ ∃ e, answer = .error e
  | _ => ∃ e, answer = .error e

theorem Request.denied_error {request : Request} (h : request.needsConnection = true)
    (e : RelayError) : request.Denied (.error e) := by
  cases request with
  | create | send | sendPayload | close => exact nomatch h
  | addAudioTrack | addVideoTrack | setRemote | createOffer | createAnswer | addCandidate
  | preferredCodec => exact ⟨e, rfl⟩

variable {link : Link} {options : LinkOptions} {engine : MediaEngine} {request : Request}
  {done : List (MediaEngine × Request)}

theorem run_concat (engine : MediaEngine) (request : Request) :
    link.run (done ++ [(engine, request)]) = ((link.run done).carryOut engine request).2 :=
  List.foldl_append

/-! ## Links without a connection -/

theorem live_of_unconnected (h : link.connection = none) : link.live = .error .notInitialized := by
  rw [live, h]

theorem resolveLive_of_unconnected (engine : MediaEngine) (h : link.connection = none)
    (payload : String) :
    ∃ e, link.resolveLive engine payload = .error e := by
  unfold resolveLive
  cases link.resolve engine payload with
  | error e => exact ⟨e, rfl⟩
  | ok said =>
    rw [live_of_unconnected h]
    exact ⟨.notInitialized, rfl⟩

theorem addVideoTrack_of_unconnected (h : link.connection = none) (codec : CodecKind) :
    ∃ e, link.addVideoTrack codec = .error e := by
  unfold addVideoTrack
  split
  · rw [live_of_unconnected h]
    exact ⟨.notInitialized, rfl⟩
  · exact ⟨_, rfl⟩

/-- A link without a connection refuses what needs one and stays as it is. -/
theorem carryOut_of_unconnected (engine : MediaEngine) (h : link.connection = none)
    (hneeds : request.needsConnection = true) :
    ∃ e, link.carryOut engine request = (.error e, link) := by
  have hlive := live_of_unconnected h
  cases request with
  | create | send | sendPayload | close => exact nomatch hneeds
  | addAudioTrack =>
    refine ⟨.notInitialized, ?_⟩
    rw [carryOut, addAudioTrack, hlive]
    rfl
  | addVideoTrack codec =>
    obtain ⟨e, he⟩ := addVideoTrack_of_unconnected h codec
    refine ⟨e, ?_⟩
    rw [carryOut, he]
    rfl
  | setRemote payload =>
    obtain ⟨e, he⟩ := resolveLive_of_unconnected engine h payload
    refine ⟨e, ?_⟩
    rw [carryOut, setRemote, he]
    rfl
  | createOffer =>
    refine ⟨.notInitialized, ?_⟩
    rw [carryOut, createOffer, h]
    rfl
  | createAnswer =>
    refine ⟨.notInitialized, ?_⟩
    rw [carryOut, createAnswer, h]
    rfl
  | addCandidate candidate =>
    refine ⟨.notInitialized, ?_⟩
    rw [carryOut, addCandidate, hlive]
    rfl
  | preferredCodec =>
    refine ⟨.missingLocalDescription, ?_⟩
    rw [carryOut, preferredCodec, h]
    rfl

/-! ## Links that were closed -/

/-- Nothing is left of the link but its options and the descriptions that it made. -/
structure Spent (link : Link) : Prop where
  connection : link.connection = none
  closed : link.closed = true
  candidates : link.candidates = []
  audio : link.audio = false
  video : link.video = false

theorem spent_close : link.close.Spent :=
  ⟨rfl, rfl, rfl, rfl, rfl⟩

namespace Spent

theorem state (h : link.Spent) : link.state = .closed := by
  rw [Link.state, h.connection, h.closed]
  rfl

theorem hasTrack (h : link.Spent) (media : MediaKind) : link.hasTrack media = false := by
  cases media with
  | audio => exact h.audio
  | video => exact h.video

theorem create (h : link.Spent) : link.create engine = .error .connectionClosed := by
  rw [Link.create, if_pos h.closed]

theorem send (h : link.Spent) (media : MediaKind) (payload : Payload) :
    link.send media payload = 0 := by
  rw [Link.send, h.hasTrack, if_neg Bool.false_ne_true]

/-- No byte is sent, in however many frames. -/
theorem sendPayload (h : link.Spent) (source : CodecConfig) (payload : Payload) :
    link.sendPayload source payload =
      (transcode source link.codec.config payload).map (fun _ => 0) := by
  have hframes : ∀ frames : List Payload,
      frames.foldl (fun sent frame => sent + link.send .audio frame) 0 = 0 := by
    intro frames
    induction frames with
    | nil => rfl
    | cons frame frames ih => rw [List.foldl_cons, h.send, ih]
  rw [Link.sendPayload]
  simp only [hframes]

theorem close (h : link.Spent) : link.close = link := by
  cases link
  obtain ⟨rfl, rfl, rfl, rfl, rfl⟩ := h
  rfl

theorem release (h : link.Spent) : link.release engine = (.ok (), link) := by
  rw [Link.release, h.connection, h.close, Option.elim_none]

/-- No request moves a spent link. -/
theorem carryOut (h : link.Spent) (engine : MediaEngine) (request : Request) :
    (link.carryOut engine request).2 = link ∧
      request.Denied (link.carryOut engine request).1 := by
  by_cases hneeds : request.needsConnection = true
  · obtain ⟨e, he⟩ := carryOut_of_unconnected engine h.connection hneeds
    rw [he]
    exact ⟨rfl, Request.denied_error hneeds e⟩
  cases request with
  | create =>
    rw [Link.carryOut, h.create]
    exact ⟨rfl, rfl⟩
  | close =>
    rw [Link.carryOut, h.release]
    exact ⟨rfl, rfl⟩
  | send media payload =>
    rw [Link.carryOut, h.send]
    exact ⟨rfl, rfl⟩
  | sendPayload source payload =>
    rw [Link.carryOut, h.sendPayload]
    refine ⟨rfl, ?_⟩
    cases transcode source link.codec.config payload with
    | ok frames => exact .inl rfl
    | error e => exact .inr ⟨e, rfl⟩
  | addAudioTrack | addVideoTrack | setRemote | createOffer | createAnswer | addCandidate
  | preferredCodec => exact absurd rfl hneeds

end Spent

/-- From the first close on, a link is spent. -/
theorem spent_run (h : .close ∈ done.map Prod.snd) : (link.run done).Spent := by
  induction done using List.reverseRecOn with
  | nil => exact nomatch h
  | append_singleton done asked ih =>
    obtain ⟨engine, request⟩ := asked
    rw [run_concat]
    rw [List.map_append, List.mem_append] at h
    rcases h with hbefore | hnow
    · rw [((ih hbefore).carryOut engine request).1]
      exact ih hbefore
    · obtain rfl : Request.close = request := List.mem_singleton.1 hnow
      exact spent_close

/-! ## Links before their connection -/

/-- Some request of a run has created the connection. -/
def Creates (link : Link) (requests : List (MediaEngine × Request)) : Prop :=
  ∃ done engine, done ++ [(engine, .create)] <+: requests ∧
    ((link.run done).carryOut engine .create).1 = .ok .done

theorem creates_mono {requests : List (MediaEngine × Request)} (h : done <+: requests)
    (hcreates : link.Creates done) : link.Creates requests := by
  obtain ⟨before, engine, hbefore, hok⟩ := hcreates
  exact ⟨before, engine, hbefore.trans h, hok⟩

/-- A request that does not succeed in giving a new link leaves the link as it is. -/
theorem keep_of_ne_done {outcome : Except RelayError Link}
    (h : (link.keep outcome).1 ≠ .ok .done) : (link.keep outcome).2 = link := by
  cases outcome with
  | ok after => exact absurd rfl h
  | error e => rfl

/-- Nothing moves a new link but the creation of its connection and its closing. -/
theorem run_of_untouched (hclose : .close ∉ done.map Prod.snd)
    (hcreates : ¬(Link.new options).Creates done) :
    (Link.new options).run done = Link.new options := by
  induction done using List.reverseRecOn with
  | nil => rfl
  | append_singleton done asked ih =>
    obtain ⟨engine, request⟩ := asked
    rw [List.map_append, List.mem_append, not_or] at hclose
    have hbefore := ih hclose.1 fun h => hcreates (creates_mono (List.prefix_append ..) h)
    rw [run_concat, hbefore]
    by_cases hneeds : request.needsConnection = true
    · obtain ⟨e, he⟩ :=
        carryOut_of_unconnected engine (rfl : (Link.new options).connection = none) hneeds
      rw [he]
    cases request with
    | create =>
      refine keep_of_ne_done fun h => hcreates ⟨done, engine, List.prefix_rfl, ?_⟩
      rw [hbefore]
      exact h
    | close => exact absurd (List.mem_singleton_self _) hclose.2
    | send | sendPayload => rfl
    | addAudioTrack | addVideoTrack | setRemote | createOffer | createAnswer | addCandidate
    | preferredCodec => exact absurd rfl hneeds

/-! ## The result -/

/-- Closing is final.  From the first close of a run on, the link is closed and has no candidate and
no track, and whatever is asked of it is denied and leaves it as it is.  Before that, and as long as
no connection was created, the link is as it was new, and what needs a connection fails. -/
theorem close_is_final (options : LinkOptions) (done : List (MediaEngine × Request))
    (engine : MediaEngine) (request : Request) :
    (.close ∈ done.map Prod.snd →
      ((Link.new options).run done).state = .closed ∧
      ((Link.new options).run done).candidates = [] ∧
      (∀ media, ((Link.new options).run done).hasTrack media = false) ∧
      (((Link.new options).run done).carryOut engine request).2 = (Link.new options).run done ∧
      request.Denied (((Link.new options).run done).carryOut engine request).1) ∧
    (.close ∉ done.map Prod.snd → ¬(Link.new options).Creates done →
      (Link.new options).run done = Link.new options ∧
      (request.needsConnection = true →
        ∃ e, (Link.new options).carryOut engine request = (.error e, Link.new options))) := by
  constructor
  · intro hclose
    have hspent : ((Link.new options).run done).Spent := spent_run hclose
    exact ⟨hspent.state, hspent.candidates, hspent.hasTrack, hspent.carryOut engine request⟩
  · intro hclose hcreates
    exact ⟨run_of_untouched hclose hcreates, carryOut_of_unconnected engine rfl⟩

/-- An engine that sets up connections with any servers. -/
def undemanding : MediaEngine :=
  { MediaEngine.onHost Host.isolated with takesServers := fun _ => true }

/-- A link that has a track for audio loses it when it is closed, and is not created again. -/
theorem closed_with_a_track :
    ((Link.new {}).run [(undemanding, .create), (undemanding, .addAudioTrack)]).audio = true ∧
    ((Link.new {}).run [(undemanding, .create), (undemanding, .addAudioTrack),
      (undemanding, .close)]).hasTrack .audio = false ∧
    (((Link.new {}).run [(undemanding, .create), (undemanding, .addAudioTrack),
      (undemanding, .close)]).carryOut undemanding .create).1 = .error .connectionClosed := by
  obtain ⟨-, -, htrack, -, hdenied⟩ := (close_is_final {}
    [(undemanding, .create), (undemanding, .addAudioTrack), (undemanding, .close)]
    undemanding .create).1 (by decide)
  exact ⟨rfl, htrack .audio, hdenied⟩

end Link

end RelayMesh
