import Dcvp.Modules.ProctorGateway

/-!
# `Dcvp.Proofs.ProctorRooms`: who stays in the rooms of the proctors

A socket that has joined an exam as a proctor is to leave with the session of its token. The
gateway keeps one token for each socket, and under each token the sockets to disconnect. The
rooms of a socket add up over its joins.

The proofs look at a memory through a few observations: whether a socket is connected, its
rooms, its token, and the clients under a token. Each primitive operation of the gateway has
a lemma for each observation. `Tracked` is the invariant: the clients under a token are the
connected sockets that hold it. `RoomsValid` is the property.

Two moves can break the property: a `join-admin` that completes after its token was revoked,
and a revocation of a token that a socket has joined with before it joined with another one.
`rooms_valid_iff` says that nothing else can.
-/

set_option autoImplicit false

namespace Dcvp.Proofs

open Dcvp.Lib
open Dcvp.Modules

/-- The rooms of a socket. -/
def roomsOf (m : GatewayMemory) (id : SocketId) : List String :=
  match m.sockets.get? id with
  | none => []
  | some s => s.rooms

/-- The token under which a socket is to be tracked. -/
def tokenOf (m : GatewayMemory) (id : SocketId) : Option String := (m.dataOf id).adminToken

/-! ### Room names -/

/-- The exam of a proctors' room. -/
theorem adminRoom_inj {e e' : String} (h : adminRoom e = adminRoom e') : e = e' := by
  have hlist := congrArg String.toList h
  simp only [adminRoom, String.toList_append] at hlist
  exact String.toList_inj.mp (List.append_cancel_left (List.append_cancel_right hlist))

/-- The room of a candidate's device is no proctors' room: their names end differently. -/
theorem candidateRoom_ne_adminRoom {e candidateId deviceRole : String} (e' : String)
    (h : deviceRole ∈ proctorDeviceRoles) :
    candidateRoom e candidateId deviceRole ≠ adminRoom e' := by
  intro heq
  have hlast := congrArg (fun s => s.toList.getLast?) heq
  have hadmin : (adminRoom e').toList.getLast? = some 's' := by
    rw [adminRoom, String.toList_append, List.getLast?_append]
    rfl
  have hcandidate : (candidateRoom e candidateId deviceRole).toList.getLast?
      = deviceRole.toList.getLast?.or
        ("exam:" ++ e ++ ":candidate:" ++ candidateId ++ ":").toList.getLast? := by
    rw [candidateRoom, String.toList_append, List.getLast?_append]
  simp only [hadmin, hcandidate] at hlast
  simp only [proctorDeviceRoles, List.mem_cons, List.not_mem_nil, or_false] at h
  rcases h with rfl | rfl
  · cases hlast
  · cases hlast

/-! ### Observations after each primitive operation -/

section
variable (m : GatewayMemory) (id k : SocketId)

/-- The sockets after a change of one of them: the others are as they were, and an unknown one
stays unknown. -/
theorem sockets_updateSocket (f : ProctorSocket → ProctorSocket) :
    (m.updateSocket id f).sockets.get? k
      = if k = id then (m.sockets.get? id).map f else m.sockets.get? k := by
  unfold GatewayMemory.updateSocket
  cases hs : m.sockets.get? id with
  | none =>
      by_cases hk : k = id
      · simp [hk, hs]
      · simp [hk]
  | some s =>
      show (m.sockets.set id (f s)).get? k = _
      rw [OrderedMap.get?_set]
      by_cases hk : k = id
      · simp [hk]
      · simp [hk]

/-- A socket that the server knows is still known after a change of any socket. -/
theorem known_updateSocket (f : ProctorSocket → ProctorSocket) (h : m.sockets.get? k ≠ none) :
    (m.updateSocket id f).sockets.get? k ≠ none := by
  rw [sockets_updateSocket]
  split
  · rename_i heq
    subst heq
    simpa using h
  · exact h

/-- A change that keeps a socket connected keeps all of them as they are connected. -/
theorem isConnected_updateSocket {f : ProctorSocket → ProctorSocket}
    (hf : ∀ s, (f s).connected = s.connected) :
    (m.updateSocket id f).isConnected k = m.isConnected k := by
  unfold GatewayMemory.isConnected
  rw [sockets_updateSocket]
  by_cases hk : k = id
  · subst hk
    cases hs : m.sockets.get? k with
    | none => simp
    | some s => simp [hf]
  · simp [hk]

/-- A change of a socket that keeps its session token, such as one of its rooms, keeps the token of
every socket. -/
theorem tokenOf_updateSocket {f : ProctorSocket → ProctorSocket}
    (hf : ∀ s, (f s).data.adminToken = s.data.adminToken) :
    tokenOf (m.updateSocket id f) k = tokenOf m k := by
  unfold tokenOf GatewayMemory.dataOf
  rw [sockets_updateSocket]
  by_cases hk : k = id
  · subst hk
    cases hs : m.sockets.get? k with
    | none => simp
    | some s => simp [hf]
  · simp [hk]

/-- A change of a socket that keeps its rooms, such as one of its data, keeps the rooms of every
socket. -/
theorem roomsOf_updateSocket {f : ProctorSocket → ProctorSocket}
    (hf : ∀ s, (f s).rooms = s.rooms) : roomsOf (m.updateSocket id f) k = roomsOf m k := by
  unfold roomsOf
  rw [sockets_updateSocket]
  by_cases hk : k = id
  · subst hk
    cases hs : m.sockets.get? k with
    | none => simp
    | some s => simp [hf]
  · simp [hk]

/-- The rest of the memory after a change of a socket. -/
theorem rest_updateSocket (f : ProctorSocket → ProctorSocket) :
    (m.updateSocket id f).adminClientsByToken = m.adminClientsByToken ∧
      (m.updateSocket id f).closing = m.closing ∧
      (m.updateSocket id f).revoked = m.revoked ∧ (m.updateSocket id f).joins = m.joins := by
  unfold GatewayMemory.updateSocket
  cases m.sockets.get? id <;> exact ⟨rfl, rfl, rfl, rfl⟩

/-- `client.join` keeps a connection and its token. -/
theorem isConnected_joinRoom (room : String) :
    (m.joinRoom id room).isConnected k = m.isConnected k :=
  isConnected_updateSocket m id k fun s => by split <;> rfl

/-- To join a room leaves the token of every socket. -/
theorem tokenOf_joinRoom (room : String) : tokenOf (m.joinRoom id room) k = tokenOf m k :=
  tokenOf_updateSocket m id k fun s => by split <;> rfl

/-- The connected sockets after the end of a connection: the same ones, but for the socket that has
ended. -/
theorem isConnected_disconnect :
    (m.disconnect id).isConnected k = (m.isConnected k && decide (k ≠ id)) := by
  unfold GatewayMemory.disconnect
  by_cases hid : m.isConnected id = true
  · rw [if_pos hid]
    show (m.updateSocket id _).isConnected k = _
    unfold GatewayMemory.isConnected
    rw [sockets_updateSocket]
    by_cases hk : k = id
    · subst hk
      cases m.sockets.get? k <;> simp
    · simp [hk]
  · rw [if_neg hid]
    by_cases hk : k = id
    · subst hk
      simpa using hid
    · simp [hk]

/-- A socket that stays connected when another one disconnects keeps its rooms. -/
theorem roomsOf_disconnect (h : (m.disconnect id).isConnected k = true) :
    roomsOf (m.disconnect id) k = roomsOf m k := by
  rw [isConnected_disconnect] at h
  have hk : k ≠ id := by simp at h; exact h.2
  unfold GatewayMemory.disconnect
  split
  · show roomsOf (m.updateSocket id _) k = _
    unfold roomsOf
    rw [sockets_updateSocket, if_neg hk]
  · rfl

/-- A disconnected socket keeps its token in its data. -/
theorem tokenOf_disconnect : tokenOf (m.disconnect id) k = tokenOf m k := by
  unfold GatewayMemory.disconnect
  split
  · exact tokenOf_updateSocket m id k fun _ => rfl
  · rfl

/-- The end of a connection leaves the clients, the tokens and the joins. -/
theorem rest_disconnect :
    (m.disconnect id).adminClientsByToken = m.adminClientsByToken ∧
      (m.disconnect id).revoked = m.revoked ∧ (m.disconnect id).joins = m.joins := by
  unfold GatewayMemory.disconnect
  split
  · obtain ⟨hclients, -, hrevoked, hjoins⟩ := rest_updateSocket m id fun s =>
      { s with connected := false, rooms := [] }
    exact ⟨hclients, hrevoked, hjoins⟩
  · exact ⟨rfl, rfl, rfl⟩

/-- Only a connection that ends is added to `closing`. -/
theorem mem_closing_disconnect (h : k ∈ (m.disconnect id).closing) :
    k ∈ m.closing ∨ (k = id ∧ m.isConnected id = true) := by
  unfold GatewayMemory.disconnect at h
  split at h
  · rename_i hid
    obtain ⟨-, hclosing, -, -⟩ := rest_updateSocket m id fun s =>
      { s with connected := false, rooms := [] }
    simp only [List.mem_append, List.mem_singleton, hclosing] at h
    exact h.imp_right fun heq => ⟨heq, hid⟩
  · exact Or.inl h

end

/-- What is observed of a socket depends on the sockets only. -/
theorem observe_congr {m n : GatewayMemory} (h : n.sockets = m.sockets) (k : SocketId) :
    n.isConnected k = m.isConnected k ∧ tokenOf n k = tokenOf m k ∧
      roomsOf n k = roomsOf m k := by
  unfold GatewayMemory.isConnected tokenOf GatewayMemory.dataOf roomsOf
  rw [h]
  exact ⟨rfl, rfl, rfl⟩

/-- A connected socket is in the table. -/
theorem known_of_isConnected {m : GatewayMemory} {id : SocketId} (h : m.isConnected id = true) :
    m.sockets.get? id ≠ none := by
  intro hnone
  unfold GatewayMemory.isConnected at h
  rw [hnone] at h
  cases h

/-! ### The tracked clients -/

/-- What a test of a text lets through, as in `if (token)`: a text that is there and not empty. -/
theorem truthy_eq_some {s : Option String} {t : String} :
    Js.truthy s = some t ↔ s = some t ∧ t ≠ "" := by
  simp [Js.truthy, Option.filter_eq_some_iff]

/-- What it does not let through: no text, or the empty one. -/
theorem truthy_eq_none {s : Option String} : Js.truthy s = none ↔ ∀ t, s = some t → t = "" := by
  cases s <;> simp [Js.truthy]

section
variable (m : GatewayMemory) (id k : SocketId)

/-- The clients of a token after `trackAdminClient`: the same, and the socket itself under its own
token, once. -/
theorem mem_adminClients_track (token : String) :
    k ∈ (m.trackAdminClient id).adminClients token ↔
      k ∈ m.adminClients token ∨ (k = id ∧ tokenOf m id = some token ∧ token ≠ "") := by
  unfold GatewayMemory.trackAdminClient
  cases htoken : Js.truthy (m.dataOf id).adminToken with
  | none =>
      rw [truthy_eq_none] at htoken
      refine ⟨Or.inl, ?_⟩
      rintro (hold | ⟨-, hid, hne⟩)
      · exact hold
      · exact absurd (htoken token hid) hne
  | some own =>
      obtain ⟨hown, hne⟩ := truthy_eq_some.mp htoken
      show k ∈ ((m.adminClientsByToken.set own _).get? token).getD [] ↔ _
      rw [OrderedMap.get?_set]
      -- Only the entry of the socket's own token changes, and a socket that is in it is not added
      -- again.
      by_cases htok : token = own
      · subst htok
        rw [if_pos rfl, Option.getD_some]
        have hself : tokenOf m id = some token := hown
        by_cases hin : id ∈ m.adminClients token
        · rw [if_pos hin]
          refine ⟨Or.inl, ?_⟩
          rintro (hold | ⟨rfl, -, -⟩)
          · exact hold
          · exact hin
        · rw [if_neg hin, List.mem_append, List.mem_singleton]
          simp [hself, hne]
      · rw [if_neg htok]
        refine ⟨Or.inl, ?_⟩
        rintro (hold | ⟨-, hid, -⟩)
        · exact hold
        · have hsame : some own = some token := hown.symm.trans hid
          cases hsame
          exact absurd rfl htok

/-- The clients of a token after `untrackAdminClient`: the same, without the socket under its own
token. -/
theorem mem_adminClients_untrack (token : String) :
    k ∈ (m.untrackAdminClient id).adminClients token ↔
      k ∈ m.adminClients token ∧ ¬ (k = id ∧ tokenOf m id = some token ∧ token ≠ "") := by
  unfold GatewayMemory.untrackAdminClient
  cases htoken : Js.truthy (m.dataOf id).adminToken with
  | none =>
      rw [truthy_eq_none] at htoken
      exact ⟨fun h => ⟨h, fun ⟨_, hid, hne⟩ => hne (htoken token hid)⟩, fun h => h.1⟩
  | some own =>
      obtain ⟨hown, hne⟩ := truthy_eq_some.mp htoken
      have hself : tokenOf m id = some own := hown
      simp only []
      cases hclients : m.adminClientsByToken.get? own with
      | none =>
          refine ⟨fun h => ⟨h, ?_⟩, fun h => h.1⟩
          rintro ⟨-, hid, -⟩
          rw [hself] at hid
          cases hid
          replace h : k ∈ (m.adminClientsByToken.get? token).getD [] := h
          rw [hclients] at h
          cases h
      | some clients =>
          -- An empty list is deleted, which reads back as the empty list.
          have hnew : ∀ t, ((if (clients.filter (· ≠ id)).isEmpty = true then
              m.adminClientsByToken.delete own
              else m.adminClientsByToken.set own (clients.filter (· ≠ id))).get? t).getD []
              = if t = own then clients.filter (· ≠ id) else m.adminClients t := by
            intro t
            by_cases hempty : (clients.filter (· ≠ id)).isEmpty = true
            · rw [if_pos hempty, OrderedMap.get?_delete]
              by_cases ht : t = own
              · rw [if_pos ht, if_pos ht, List.isEmpty_iff.mp hempty]
                rfl
              · rw [if_neg ht, if_neg ht]
                rfl
            · rw [if_neg hempty, OrderedMap.get?_set]
              by_cases ht : t = own
              · rw [if_pos ht, if_pos ht]
                rfl
              · rw [if_neg ht, if_neg ht]
                rfl
          have hold : m.adminClients own = clients := by
            unfold GatewayMemory.adminClients
            rw [hclients]
            rfl
          refine (iff_of_eq (congrArg (k ∈ ·) (hnew token))).trans ?_
          by_cases ht : token = own
          · subst ht
            rw [if_pos rfl, hold, hself]
            simp [hne]
          · rw [if_neg ht, hself]
            simp [Ne.symm ht]

/-- Tracking changes the table of the clients only. -/
theorem rest_track : (m.trackAdminClient id).sockets = m.sockets ∧
    (m.trackAdminClient id).closing = m.closing ∧
    (m.trackAdminClient id).revoked = m.revoked ∧ (m.trackAdminClient id).joins = m.joins := by
  unfold GatewayMemory.trackAdminClient
  split <;> exact ⟨rfl, rfl, rfl, rfl⟩

/-- The end of a registration concerns the registration only. Sockets, closing sockets, revoked
tokens and joins stay. -/
theorem rest_untrack : (m.untrackAdminClient id).sockets = m.sockets ∧
    (m.untrackAdminClient id).closing = m.closing ∧
    (m.untrackAdminClient id).revoked = m.revoked ∧
    (m.untrackAdminClient id).joins = m.joins := by
  unfold GatewayMemory.untrackAdminClient
  split
  · exact ⟨rfl, rfl, rfl, rfl⟩
  · split <;> exact ⟨rfl, rfl, rfl, rfl⟩

end

/-! ### The invariant and the property -/

/-- The clients under a token are the connected sockets that hold it. -/
structure Tracked (m : GatewayMemory) : Prop where
  holds : ∀ id, m.isConnected id = true →
    ∀ token, id ∈ m.adminClients token ↔ tokenOf m id = some token
  plain : ∀ id, m.isConnected id = true → tokenOf m id ≠ some ""
  known : ∀ token id, id ∈ m.adminClients token → m.sockets.get? id ≠ none
  closed : ∀ id ∈ m.closing, m.isConnected id = false
  ended : ∀ id ∈ m.closing, m.sockets.get? id ≠ none

/-- Each connected socket in a proctors' room has joined the exam with a token that was not
revoked. -/
def RoomsValid (m : GatewayMemory) : Prop :=
  ∀ id e, m.isConnected id = true → adminRoom e ∈ roomsOf m id →
    ∃ token, (id, e, some token) ∈ m.joins ∧ token ∉ m.revoked

/-- A change that concerns neither the proctors' rooms nor their tokens. -/
structure Keeps (m m' : GatewayMemory) : Prop where
  connected : ∀ id, m'.isConnected id = m.isConnected id
  rooms : ∀ id e, adminRoom e ∈ roomsOf m' id ↔ adminRoom e ∈ roomsOf m id
  tokens : ∀ id, tokenOf m' id = tokenOf m id
  clients : ∀ token, m'.adminClients token = m.adminClients token
  known : ∀ id, m.sockets.get? id ≠ none → m'.sockets.get? id ≠ none
  closing : m'.closing = m.closing
  revoked : m'.revoked = m.revoked
  joins : m'.joins = m.joins

/-- Nothing changes. -/
theorem Keeps.refl (m : GatewayMemory) : Keeps m m :=
  ⟨fun _ => rfl, fun _ _ => Iff.rfl, fun _ => rfl, fun _ => rfl, fun _ h => h, rfl, rfl, rfl⟩

/-- Two changes, neither of which concerns the proctors' rooms or their tokens. -/
theorem Keeps.trans {m m' m'' : GatewayMemory} (h : Keeps m m') (h' : Keeps m' m'') :
    Keeps m m'' where
  connected id := (h'.connected id).trans (h.connected id)
  rooms id e := (h'.rooms id e).trans (h.rooms id e)
  tokens id := (h'.tokens id).trans (h.tokens id)
  clients token := (h'.clients token).trans (h.clients token)
  known id hid := h'.known id (h.known id hid)
  closing := h'.closing.trans h.closing
  revoked := h'.revoked.trans h.revoked
  joins := h'.joins.trans h.joins

/-- Such a change keeps the invariant, which looks at connections, tokens and clients only. -/
theorem Keeps.tracked {m m' : GatewayMemory} (h : Keeps m m') (hm : Tracked m) : Tracked m' where
  holds id hid token := by
    rw [h.connected] at hid
    rw [h.clients, h.tokens]
    exact hm.holds id hid token
  plain id hid := by
    rw [h.connected] at hid
    rw [h.tokens]
    exact hm.plain id hid
  known token id hid := by
    rw [h.clients] at hid
    exact h.known id (hm.known token id hid)
  closed id hid := by
    rw [h.closing] at hid
    rw [h.connected]
    exact hm.closed id hid
  ended id hid := by
    rw [h.closing] at hid
    exact h.known id (hm.ended id hid)

/-- Such a change neither breaks the property nor restores it. -/
theorem Keeps.roomsValid_iff {m m' : GatewayMemory} (h : Keeps m m') :
    RoomsValid m' ↔ RoomsValid m := by
  simp only [RoomsValid, h.connected, h.rooms, h.revoked, h.joins]

/-- Messages concern neither rooms nor tokens. -/
theorem keeps_emissions (m : GatewayMemory) (emissions : List Emission) :
    Keeps m { m with emissions } :=
  ⟨fun _ => rfl, fun _ _ => Iff.rfl, fun _ => rfl, fun _ => rfl, fun _ h => h, rfl, rfl, rfl⟩

/-- A change of a socket that touches neither its connection nor its token nor the proctors'
rooms. -/
theorem keeps_updateSocket (m : GatewayMemory) (id : SocketId)
    {f : ProctorSocket → ProctorSocket} (hconnected : ∀ s, (f s).connected = s.connected)
    (htoken : ∀ s, (f s).data.adminToken = s.data.adminToken)
    (hrooms : ∀ s e, adminRoom e ∈ (f s).rooms ↔ adminRoom e ∈ s.rooms) :
    Keeps m (m.updateSocket id f) where
  connected k := isConnected_updateSocket m id k hconnected
  rooms k e := by
    unfold roomsOf
    rw [sockets_updateSocket]
    by_cases hk : k = id
    · subst hk
      cases m.sockets.get? k with
      | none => simp
      | some s => simpa using hrooms s e
    · simp [hk]
  tokens k := tokenOf_updateSocket m id k htoken
  clients token := by
    unfold GatewayMemory.adminClients
    rw [(rest_updateSocket m id f).1]
  known k hk := known_updateSocket m id k f hk
  closing := (rest_updateSocket m id f).2.1
  revoked := (rest_updateSocket m id f).2.2.1
  joins := (rest_updateSocket m id f).2.2.2

/-! ### Connections that begin and end -/

/-- A new socket has no room and no token, so the registry has nothing to know of it. -/
theorem tracked_connect {m : GatewayMemory} {id : SocketId} (handshakeToken : Option String)
    (hfresh : m.sockets.get? id = none) (hm : Tracked m) :
    Tracked { m with sockets := m.sockets.set id { handshakeToken } } := by
  have hget : ∀ k, (m.sockets.set id { handshakeToken }).get? k
      = if k = id then some { handshakeToken } else m.sockets.get? k := fun k =>
    OrderedMap.get?_set _ _ _ _
  set m' : GatewayMemory := { m with sockets := m.sockets.set id { handshakeToken } }
  have hconnected : ∀ k, k ≠ id → m'.isConnected k = m.isConnected k := by
    intro k hk
    unfold GatewayMemory.isConnected
    rw [hget, if_neg hk]
  have htoken : ∀ k, k ≠ id → tokenOf m' k = tokenOf m k := by
    intro k hk
    unfold tokenOf GatewayMemory.dataOf
    rw [hget, if_neg hk]
  have hnew : tokenOf m' id = none := by
    unfold tokenOf GatewayMemory.dataOf
    rw [hget, if_pos rfl]
  -- A closing socket is in the table, so it is not the new one.
  have hclosing : ∀ k ∈ m.closing, k ≠ id := by
    intro k hk heq
    exact hm.ended k hk (heq ▸ hfresh)
  refine ⟨fun k hk token => ?_, fun k hk => ?_, fun token k hk => ?_, fun k hk => ?_,
    fun k hk => ?_⟩
  · show k ∈ m.adminClients token ↔ _
    by_cases hid : k = id
    · subst hid
      rw [hnew]
      exact ⟨fun hin => absurd hfresh (hm.known token k hin), fun h => by cases h⟩
    · rw [htoken k hid]
      exact hm.holds k (by rw [← hconnected k hid]; exact hk) token
  · by_cases hid : k = id
    · rw [hid, hnew]
      exact fun h => by cases h
    · rw [htoken k hid]
      exact hm.plain k (by rw [← hconnected k hid]; exact hk)
  · rw [hget]
    split
    · exact fun h => by cases h
    · exact hm.known token k hk
  · rw [hconnected k (hclosing k hk)]
    exact hm.closed k hk
  · rw [hget, if_neg (hclosing k hk)]
    exact hm.ended k hk

/-- A new socket is in no room, so that the rooms stay valid when it connects. -/
theorem roomsValid_connect {m : GatewayMemory} {id : SocketId} (handshakeToken : Option String)
    (hv : RoomsValid m) :
    RoomsValid { m with sockets := m.sockets.set id { handshakeToken } } := by
  intro k e hk hin
  have hget : (m.sockets.set id { handshakeToken }).get? k
      = if k = id then some { handshakeToken } else m.sockets.get? k :=
    OrderedMap.get?_set _ _ _ _
  unfold GatewayMemory.isConnected at hk
  unfold roomsOf at hin
  rw [hget] at hk hin
  by_cases hid : k = id
  · simp [hid] at hin
  · rw [if_neg hid] at hk hin
    exact hv k e hk hin

/-- The connections of the listed sockets have ended. -/
structure Ends (m m' : GatewayMemory) (ids : List SocketId) : Prop where
  connected : ∀ k, m'.isConnected k = (m.isConnected k && decide (k ∉ ids))
  rooms : ∀ k, m'.isConnected k = true → roomsOf m' k = roomsOf m k
  tokens : ∀ k, tokenOf m' k = tokenOf m k
  clients : m'.adminClientsByToken = m.adminClientsByToken
  known : ∀ k, m'.sockets.get? k = none ↔ m.sockets.get? k = none
  closing : ∀ k, k ∈ m'.closing → k ∈ m.closing ∨ (k ∈ ids ∧ m.sockets.get? k ≠ none)
  revoked : m'.revoked = m.revoked
  joins : m'.joins = m.joins

/-- No connection ends. -/
theorem ends_nil (m : GatewayMemory) : Ends m m [] :=
  ⟨fun k => by simp, fun _ _ => rfl, fun _ => rfl, rfl, fun _ => Iff.rfl,
    fun _ h => Or.inl h, rfl, rfl⟩

/-- The connection of one socket ends. Its rooms are left, and the other sockets stay as they are.
-/
theorem ends_disconnect (m : GatewayMemory) (id : SocketId) : Ends m (m.disconnect id) [id] where
  connected k := by simp [isConnected_disconnect]
  rooms k hk := roomsOf_disconnect m id k hk
  tokens k := tokenOf_disconnect m id k
  clients := (rest_disconnect m id).1
  known k := by
    unfold GatewayMemory.disconnect
    split
    · show (m.updateSocket id _).sockets.get? k = none ↔ _
      rw [sockets_updateSocket]
      split
      · rename_i heq
        subst heq
        simp
      · exact Iff.rfl
    · exact Iff.rfl
  closing k hk := by
    rw [List.mem_singleton]
    rcases mem_closing_disconnect m id k hk with hold | ⟨rfl, hconnected⟩
    · exact Or.inl hold
    · exact Or.inr ⟨rfl, known_of_isConnected hconnected⟩
  revoked := (rest_disconnect m id).2.1
  joins := (rest_disconnect m id).2.2

/-- The connections of two lists of sockets end, one list after the other. -/
theorem Ends.trans {m m' m'' : GatewayMemory} {ids ids' : List SocketId} (h : Ends m m' ids)
    (h' : Ends m' m'' ids') : Ends m m'' (ids ++ ids') where
  connected k := by
    rw [h'.connected, h.connected]
    simp [Bool.and_assoc]
  rooms k hk := by
    have hk' : m'.isConnected k = true := by
      rw [h'.connected] at hk
      simp only [Bool.and_eq_true] at hk
      exact hk.1
    rw [h'.rooms k hk, h.rooms k hk']
  tokens k := (h'.tokens k).trans (h.tokens k)
  clients := h'.clients.trans h.clients
  known k := (h'.known k).trans (h.known k)
  closing k hk := by
    rw [List.mem_append]
    rcases h'.closing k hk with hold | ⟨hnew, hknown⟩
    · exact (h.closing k hold).imp_right fun hin => ⟨Or.inl hin.1, hin.2⟩
    · exact Or.inr ⟨Or.inr hnew, fun hnone => hknown ((h.known k).mpr hnone)⟩
  revoked := h'.revoked.trans h.revoked
  joins := h'.joins.trans h.joins

/-- The connections of a list of sockets end, one after the other. -/
theorem ends_foldl (ids : List SocketId) (m : GatewayMemory) :
    Ends m (ids.foldl GatewayMemory.disconnect m) ids := by
  induction ids generalizing m with
  | nil => exact ends_nil m
  | cons id ids ih => exact (ends_disconnect m id).trans (ih (m.disconnect id))

/-- A closed connection keeps the invariant: its socket stays in the registry of its token until
`handleDisconnect`, and is among the closing ones until then. -/
theorem Ends.tracked {m m' : GatewayMemory} {ids : List SocketId} (h : Ends m m' ids)
    (hm : Tracked m) : Tracked m' := by
  have hold : ∀ k, m'.isConnected k = true → m.isConnected k = true := by
    intro k hk
    rw [h.connected, Bool.and_eq_true] at hk
    exact hk.1
  have hclients : ∀ token, m'.adminClients token = m.adminClients token := by
    intro token
    unfold GatewayMemory.adminClients
    rw [h.clients]
  have hknown : ∀ k, m.sockets.get? k ≠ none → m'.sockets.get? k ≠ none :=
    fun k hk hnone => hk ((h.known k).mp hnone)
  -- A socket that ends stays in the registry of its token until `handleDisconnect`; that it is
  -- closing accounts for it.
  refine ⟨fun k hk token => ?_, fun k hk => ?_, fun token k hk => ?_, fun k hk => ?_,
    fun k hk => ?_⟩
  · rw [hclients, h.tokens]
    exact hm.holds k (hold k hk) token
  · rw [h.tokens]
    exact hm.plain k (hold k hk)
  · rw [hclients] at hk
    exact hknown k (hm.known token k hk)
  · rw [h.connected]
    rcases h.closing k hk with hin | ⟨hin, -⟩
    · rw [hm.closed k hin, Bool.false_and]
    · simp [hin]
  · rcases h.closing k hk with hin | ⟨-, hin⟩
    · exact hknown k (hm.ended k hin)
    · exact hknown k hin

/-- A connection that ends takes a socket out of its rooms, so the property of the others stays. -/
theorem Ends.roomsValid {m m' : GatewayMemory} {ids : List SocketId} (h : Ends m m' ids)
    (hv : RoomsValid m) : RoomsValid m' := by
  intro id e hid hin
  have hold : m.isConnected id = true := by
    rw [h.connected, Bool.and_eq_true] at hid
    exact hid.1
  rw [h.rooms id hid] at hin
  rw [h.joins, h.revoked]
  exact hv id e hold hin

/-- `handleDisconnect` forgets a socket that is not connected, so no connected socket is taken out
of the registry. -/
theorem tracked_handleDisconnect {m : GatewayMemory} {id : SocketId} (hm : Tracked m)
    (hid : id ∈ m.closing) :
    Tracked ({ m with closing := m.closing.erase id }.untrackAdminClient id) := by
  set m₀ : GatewayMemory := { m with closing := m.closing.erase id } with hm₀
  obtain ⟨hsockets, hclosing, -, -⟩ := rest_untrack m₀ id
  have hobserve := observe_congr (m := m) (n := m₀.untrackAdminClient id) hsockets
  have hsub : ∀ k, k ∈ (m₀.untrackAdminClient id).closing → k ∈ m.closing := by
    intro k hk
    rw [hclosing] at hk
    exact List.mem_of_mem_erase hk
  refine ⟨fun k hk token => ?_, fun k hk => ?_, fun token k hk => ?_, fun k hk => ?_,
    fun k hk => ?_⟩
  · rw [(hobserve k).1] at hk
    -- The socket is closed, so no connected socket is taken out of the registry.
    have hne : k ≠ id := by
      rintro rfl
      rw [hm.closed k hid] at hk
      cases hk
    rw [mem_adminClients_untrack, (hobserve k).2.1]
    have hold := hm.holds k hk token
    exact ⟨fun h => hold.mp h.1, fun h => ⟨hold.mpr h, fun h' => hne h'.1⟩⟩
  · rw [(hobserve k).1] at hk
    rw [(hobserve k).2.1]
    exact hm.plain k hk
  · rw [hsockets]
    exact hm.known token k ((mem_adminClients_untrack m₀ id k token).mp hk).1
  · rw [(hobserve k).1]
    exact hm.closed k (hsub k hk)
  · rw [hsockets]
    exact hm.ended k (hsub k hk)

/-- The handler of a disconnect changes the registration, which the property does not look at. -/
theorem roomsValid_handleDisconnect {m : GatewayMemory} (id : SocketId) (hv : RoomsValid m) :
    RoomsValid ({ m with closing := m.closing.erase id }.untrackAdminClient id) := by
  set m₀ : GatewayMemory := { m with closing := m.closing.erase id }
  obtain ⟨hsockets, -, hrevoked, hjoins⟩ := rest_untrack m₀ id
  have hobserve := observe_congr (m := m) (n := m₀.untrackAdminClient id) hsockets
  intro k e hk hin
  rw [(hobserve k).1] at hk
  rw [(hobserve k).2.2] at hin
  rw [hjoins, hrevoked]
  exact hv k e hk hin

/-! ### A revocation -/

/-- The memory after `sessionRevoked`. -/
def afterRevocation (m : GatewayMemory) (token : String) : GatewayMemory :=
  { m with revoked := m.revoked ++ [token] }.disconnectAdminClients token

/-- A revocation takes the token out of the table and ends the connections under it. -/
theorem revocation_ends (m : GatewayMemory) (token : String) :
    ∃ m₀, Ends m₀ (afterRevocation m token) (m.adminClients token) ∧
      m₀.sockets = m.sockets ∧ m₀.closing = m.closing ∧ m₀.revoked = m.revoked ++ [token] ∧
      m₀.joins = m.joins ∧
      ∀ t, m₀.adminClients t = if t = token then [] else m.adminClients t := by
  cases hclients : m.adminClientsByToken.get? token with
  | none =>
      -- The token has no clients, and nothing is ended.
      have hempty : m.adminClients token = [] := by
        unfold GatewayMemory.adminClients
        rw [hclients]
        rfl
      have hsame : afterRevocation m token = { m with revoked := m.revoked ++ [token] } := by
        unfold afterRevocation GatewayMemory.disconnectAdminClients
        rw [hclients]
      refine ⟨{ m with revoked := m.revoked ++ [token] }, ?_, rfl, rfl, rfl, rfl, fun t => ?_⟩
      · rw [hsame, hempty]
        exact ends_nil _
      · show m.adminClients t = _
        by_cases ht : t = token
        · rw [if_pos ht, ht, hempty]
        · rw [if_neg ht]
  | some clients =>
      -- The entry of the token is deleted before its clients are disconnected.
      have hlist : m.adminClients token = clients := by
        unfold GatewayMemory.adminClients
        rw [hclients]
        rfl
      refine ⟨{ m with
        revoked := m.revoked ++ [token]
        adminClientsByToken := m.adminClientsByToken.delete token },
        ?_, rfl, rfl, rfl, rfl, fun t => ?_⟩
      · rw [hlist]
        have hfold : afterRevocation m token = clients.foldl GatewayMemory.disconnect { m with
            revoked := m.revoked ++ [token]
            adminClientsByToken := m.adminClientsByToken.delete token } := by
          unfold afterRevocation GatewayMemory.disconnectAdminClients
          rw [hclients]
        rw [hfold]
        exact ends_foldl clients _
      · show ((m.adminClientsByToken.delete token).get? t).getD [] = _
        rw [OrderedMap.get?_delete]
        by_cases ht : t = token
        · rw [if_pos ht, if_pos ht]
          rfl
        · rw [if_neg ht, if_neg ht]
          rfl

/-- A revocation keeps the invariant: it drops the clients under the token, and each of them is
disconnected. -/
theorem tracked_revocation {m : GatewayMemory} (token : String) (hm : Tracked m) :
    Tracked (afterRevocation m token) := by
  obtain ⟨m₀, hends, hsockets, hclosing, -, -, hclients⟩ := revocation_ends m token
  have hobserve := observe_congr hsockets
  have hconnected : ∀ k, (afterRevocation m token).isConnected k = true →
      m.isConnected k = true ∧ k ∉ m.adminClients token := by
    intro k hk
    rw [hends.connected, (hobserve k).1, Bool.and_eq_true, decide_eq_true_eq] at hk
    exact hk
  have hnew : ∀ t, (afterRevocation m token).adminClients t
      = if t = token then [] else m.adminClients t := by
    intro t
    rw [← hclients t]
    unfold GatewayMemory.adminClients
    rw [hends.clients]
  have hknown : ∀ k, m.sockets.get? k ≠ none → (afterRevocation m token).sockets.get? k ≠ none := by
    intro k hk hnone
    rw [hends.known, hsockets] at hnone
    exact hk hnone
  refine ⟨fun k hk t => ?_, fun k hk => ?_, fun t k hk => ?_, fun k hk => ?_, fun k hk => ?_⟩
  · obtain ⟨hold, hout⟩ := hconnected k hk
    rw [hnew, hends.tokens, (hobserve k).2.1, ← hm.holds k hold t]
    by_cases ht : t = token
    · -- The clients under the token are no longer connected.
      rw [if_pos ht, ht]
      exact ⟨fun h => (by cases h), fun h => absurd h hout⟩
    · rw [if_neg ht]
  · rw [hends.tokens, (hobserve k).2.1]
    exact hm.plain k (hconnected k hk).1
  · rw [hnew] at hk
    by_cases ht : t = token
    · rw [if_pos ht] at hk
      cases hk
    · rw [if_neg ht] at hk
      exact hknown k (hm.known t k hk)
  · rw [hends.connected]
    rcases hends.closing k hk with hin | ⟨hin, -⟩
    · rw [(hobserve k).1, hm.closed k (hclosing ▸ hin), Bool.false_and]
    · simp [hin]
  · rcases hends.closing k hk with hin | ⟨-, hin⟩
    · exact hknown k (hm.ended k (hclosing ▸ hin))
    · rw [hsockets] at hin
      exact hknown k hin

/-- A connected socket whose joins of one of its exams were all made with this token or with
revoked ones holds the token. -/
def RevocationReaches (m : GatewayMemory) (token : String) : Prop :=
  ∀ id e, m.isConnected id = true → adminRoom e ∈ roomsOf m id →
    (∀ t, (id, e, some t) ∈ m.joins → t ∈ m.revoked ∨ t = token) → tokenOf m id = some token

/-- A revocation leaves the rooms valid exactly when it reaches the sockets concerned. -/
theorem roomsValid_revocation_iff {m : GatewayMemory} (token : String) (hm : Tracked m) :
    RoomsValid (afterRevocation m token) ↔ RevocationReaches m token := by
  obtain ⟨m₀, hends, hsockets, -, hrevoked, hjoins, -⟩ := revocation_ends m token
  have hobserve := observe_congr hsockets
  constructor
  · intro hv id e hid hin hall
    by_contra hother
    -- The socket is not tracked under the token, so it stays.
    have hout : id ∉ m.adminClients token := fun h => hother ((hm.holds id hid token).mp h)
    have hstay : (afterRevocation m token).isConnected id = true := by
      rw [hends.connected, (hobserve id).1, hid]
      simp [hout]
    have hroom : adminRoom e ∈ roomsOf (afterRevocation m token) id := by
      rw [hends.rooms id hstay, (hobserve id).2.2]
      exact hin
    obtain ⟨t, hjoin, hlive⟩ := hv id e hstay hroom
    rw [hends.joins, hjoins] at hjoin
    rw [hends.revoked, hrevoked, List.mem_append, List.mem_singleton] at hlive
    exact hlive (hall t hjoin)
  · intro hreach id e hid hin
    have hold : m.isConnected id = true ∧ id ∉ m.adminClients token := by
      rw [hends.connected, (hobserve id).1, Bool.and_eq_true, decide_eq_true_eq] at hid
      exact hid
    rw [hends.rooms id hid, (hobserve id).2.2] at hin
    rw [hends.joins, hends.revoked, hjoins, hrevoked]
    by_contra hnone
    refine hold.2 ((hm.holds id hold.1 token).mpr (hreach id e hold.1 hin fun t ht => ?_))
    by_contra hlive
    exact hnone ⟨t, ht, fun hmem => hlive (by simpa using hmem)⟩

/-! ### A join of a proctor -/

/-- The token of a `join-admin` is there and not empty. -/
def HasToken (m : GatewayMemory) (id : SocketId) (payload : JoinAdminPayload) (token : String) :
    Prop :=
  m.sockets.get? id ≠ none ∧ m.extractAdminToken id payload = some token ∧ token ≠ ""

/-- What a completed join leaves: the socket is in the room of its exam and registered under its
token and under no older one, and everything else about connections, rooms and tokens is as before.
-/
structure Registered (m m' : GatewayMemory) (id : SocketId) (e token : String) : Prop where
  connected : ∀ k, m'.isConnected k = m.isConnected k
  rooms : ∀ k e', m.isConnected k = true →
    (adminRoom e' ∈ roomsOf m' k ↔ adminRoom e' ∈ roomsOf m k ∨ (k = id ∧ e' = e))
  held : tokenOf m' id = some token
  others : ∀ k, k ≠ id → tokenOf m' k = tokenOf m k
  clients : ∀ k t, k ∈ m'.adminClients t ↔
    (k ∈ m.adminClients t ∧ ¬ (k = id ∧ tokenOf m id = some t ∧ t ≠ "")) ∨ (k = id ∧ t = token)
  known : ∀ k, m.sockets.get? k ≠ none → m'.sockets.get? k ≠ none
  closing : m'.closing = m.closing
  revoked : m'.revoked = m.revoked
  joins : m'.joins = m.joins ++ [(id, e, some token)]

/-- The rooms after `client.join`: a connected socket is in the room from then on, and no other
socket is. -/
theorem mem_roomsOf_joinRoom (m : GatewayMemory) (id k : SocketId) (room r : String)
    (hk : m.isConnected k = true) :
    r ∈ roomsOf (m.joinRoom id room) k ↔ r ∈ roomsOf m k ∨ (k = id ∧ r = room) := by
  unfold GatewayMemory.joinRoom roomsOf
  rw [sockets_updateSocket]
  by_cases hid : k = id
  · subst hid
    unfold GatewayMemory.isConnected at hk
    cases hs : m.sockets.get? k with
    | none => rw [hs] at hk; cases hk
    | some s =>
        rw [hs] at hk
        replace hk : s.connected = true := hk
        simp only [if_true, Option.map_some, true_and]
        by_cases hin : room ∈ s.rooms
        · rw [if_neg (fun h => h.2 hin)]
          exact ⟨Or.inl, fun h => h.elim id fun heq => heq ▸ hin⟩
        · rw [if_pos ⟨hk, hin⟩]
          simp
  · rw [if_neg hid]
    simp [hid]

/-- The registering step of `handleJoinAdmin`: the statements of the source one after the other,
and what each of the four leaves alone. -/
theorem registered {m : GatewayMemory} {id : SocketId} {payload : JoinAdminPayload}
    {token : String} (h : HasToken m id payload token) :
    Registered m (m.registerAdmin id payload) id payload.examId token := by
  obtain ⟨hknown, htoken, hne⟩ := h
  set f : ProctorSocket → ProctorSocket := fun s => { s with data := { s.data with
    role := some .admin, adminToken := some token, examId := some payload.examId } } with hf
  -- The statements of the source one after the other: untrack, write the data, track, enter the
  -- room.
  set m₁ := m.untrackAdminClient id with hm₁
  set m₂ := m₁.updateSocket id f with hm₂
  set m₃ := m₂.trackAdminClient id with hm₃
  set m₄ := m₃.joinRoom id (adminRoom payload.examId) with hm₄
  have hlast : m.registerAdmin id payload
      = { m₄ with
          joins := m₄.joins ++ [(id, payload.examId, some token)]
          emissions := m₄.emissions ++ [⟨id, .client id, .joinedAdmin payload.examId⟩] } := by
    unfold GatewayMemory.registerAdmin
    rw [htoken]
    rfl
  -- What each of the four leaves alone.
  obtain ⟨hs₁, hc₁, hr₁, hj₁⟩ := rest_untrack m id
  obtain ⟨ht₂, hc₂, hr₂, hj₂⟩ := rest_updateSocket m₁ id f
  obtain ⟨hs₃, hc₃, hr₃, hj₃⟩ := rest_track m₂ id
  obtain ⟨ht₄, hc₄, hr₄, hj₄⟩ := rest_updateSocket m₃ id fun s =>
    if s.connected ∧ adminRoom payload.examId ∉ s.rooms then
      { s with rooms := s.rooms ++ [adminRoom payload.examId] } else s
  have hobserve₁ := observe_congr hs₁
  have hobserve₃ := observe_congr hs₃
  -- Only the second changes the data of the socket, and none disconnects it.
  have hconnected₂ : ∀ k, m₂.isConnected k = m.isConnected k := fun k => by
    rw [hm₂, isConnected_updateSocket (f := f) m₁ id k (fun _ => rfl), (hobserve₁ k).1]
  have hconnected₃ : ∀ k, m₃.isConnected k = m.isConnected k := fun k => by
    rw [(hobserve₃ k).1, hconnected₂]
  have htoken₂ : tokenOf m₂ id = some token := by
    unfold tokenOf GatewayMemory.dataOf
    rw [hm₂, sockets_updateSocket, if_pos rfl, hs₁]
    cases hs : m.sockets.get? id with
    | none => exact absurd hs hknown
    | some s => rfl
  have htokens₂ : ∀ k, k ≠ id → tokenOf m₂ k = tokenOf m k := by
    intro k hk
    unfold tokenOf GatewayMemory.dataOf
    rw [hm₂, sockets_updateSocket, if_neg hk, hs₁]
  have htokens₄ : ∀ k, tokenOf m₄ k = tokenOf m₂ k := fun k =>
    (tokenOf_joinRoom m₃ id k _).trans (hobserve₃ k).2.1
  rw [hlast]
  refine
    { connected := fun k => ?_, rooms := fun k e' hk => ?_, held := ?_,
      others := fun k hk => ?_, clients := fun k t => ?_, known := fun k hk => ?_,
      closing := ?_, revoked := ?_, joins := ?_ }
  · exact (isConnected_joinRoom m₃ id k _).trans (hconnected₃ k)
  · have hrooms₃ : roomsOf m₃ k = roomsOf m k := by
      rw [(hobserve₃ k).2.2, hm₂, roomsOf_updateSocket (f := f) m₁ id k (fun _ => rfl),
        (hobserve₁ k).2.2]
    have hjoin := mem_roomsOf_joinRoom m₃ id k (adminRoom payload.examId) (adminRoom e')
      (by rw [hconnected₃]; exact hk)
    rw [hrooms₃] at hjoin
    refine hjoin.trans (or_congr_right (and_congr_right fun _ => ?_))
    exact ⟨adminRoom_inj, fun h => by rw [h]⟩
  · exact (htokens₄ id).trans htoken₂
  · exact (htokens₄ k).trans (htokens₂ k hk)
  · -- The table of the clients changes in the first statement and in the third one only.
    have hclients₄ : m₄.adminClients t = m₃.adminClients t := by
      unfold GatewayMemory.adminClients
      rw [hm₄]
      exact congrArg (fun table => (OrderedMap.get? table t).getD []) ht₄
    have hclients₂ : m₂.adminClients t = m₁.adminClients t := by
      unfold GatewayMemory.adminClients
      rw [ht₂]
    show k ∈ m₄.adminClients t ↔ _
    rw [hclients₄, mem_adminClients_track, hclients₂, mem_adminClients_untrack, htoken₂]
    refine or_congr_right (and_congr_right fun _ => ?_)
    constructor
    · rintro ⟨heq, -⟩
      cases heq
      rfl
    · rintro rfl
      exact ⟨rfl, hne⟩
  · show m₄.sockets.get? k ≠ none
    refine known_updateSocket m₃ id k _ ?_
    rw [hs₃]
    exact known_updateSocket m₁ id k f (by rwa [hs₁])
  · exact hc₄.trans (hc₃.trans (hc₂.trans hc₁))
  · exact hr₄.trans (hr₃.trans (hr₂.trans hr₁))
  · show m₄.joins ++ _ = _
    rw [show m₄.joins = m.joins from hj₄.trans (hj₃.trans (hj₂.trans hj₁))]

/-- A completed join keeps the invariant: the socket is tracked under its new token only. -/
theorem Registered.tracked {m m' : GatewayMemory} {id : SocketId} {e token : String}
    (h : Registered m m' id e token) (hne : token ≠ "") (hknown : m.sockets.get? id ≠ none)
    (hm : Tracked m) : Tracked m' where
  holds k hk t := by
    rw [h.connected] at hk
    rw [h.clients]
    by_cases hid : k = id
    · subst hid
      rw [h.held]
      constructor
      · rintro (⟨hin, hnot⟩ | ⟨-, rfl⟩)
        · -- The socket was tracked under its old token, and is no longer.
          have hold := (hm.holds k hk t).mp hin
          have hplain : t ≠ "" := by
            rintro rfl
            exact hm.plain k hk hold
          exact absurd ⟨rfl, hold, hplain⟩ hnot
        · rfl
      · intro heq
        cases heq
        exact Or.inr ⟨rfl, rfl⟩
    · rw [h.others k hid, ← hm.holds k hk t]
      simp [hid]
  plain k hk := by
    rw [h.connected] at hk
    by_cases hid : k = id
    · rw [hid, h.held]
      exact fun heq => hne (Option.some.inj heq)
    · rw [h.others k hid]
      exact hm.plain k hk
  known t k hk := by
    rcases (h.clients k t).mp hk with ⟨hin, -⟩ | ⟨rfl, -⟩
    · exact h.known k (hm.known t k hin)
    · exact h.known k hknown
  closed k hk := by
    rw [h.closing] at hk
    rw [h.connected]
    exact hm.closed k hk
  ended k hk := by
    rw [h.closing] at hk
    exact h.known k (hm.ended k hk)

/-- At the end of a join its token was not revoked, or the socket is in the room through an
earlier join. -/
def JoinHolds (m : GatewayMemory) (id : SocketId) (payload : JoinAdminPayload) : Prop :=
  m.isConnected id = true →
    (∃ token, m.extractAdminToken id payload = some token ∧ token ∉ m.revoked) ∨
    ∃ token, (id, payload.examId, some token) ∈ m.joins ∧ token ∉ m.revoked

/-- A join leaves the rooms valid exactly when it holds. The only new obligation is that of the
joined room. -/
theorem roomsValid_register_iff {m : GatewayMemory} {id : SocketId}
    {payload : JoinAdminPayload} {token : String} (htoken : HasToken m id payload token)
    (hv : RoomsValid m) :
    RoomsValid (m.registerAdmin id payload) ↔ JoinHolds m id payload := by
  have h := registered htoken
  -- The only new obligation is that of the joined room. It is met by the token of this join, or by
  -- one of an earlier join to the same exam.
  constructor
  · intro hv' hid
    obtain ⟨t, hjoin, hlive⟩ := hv' id payload.examId (by rw [h.connected]; exact hid)
      ((h.rooms id payload.examId hid).mpr (Or.inr ⟨rfl, rfl⟩))
    rw [h.revoked] at hlive
    rw [h.joins, List.mem_append, List.mem_singleton] at hjoin
    rcases hjoin with hold | hnew
    · exact Or.inr ⟨t, hold, hlive⟩
    · cases hnew
      exact Or.inl ⟨token, htoken.2.1, hlive⟩
  · intro hholds k e hk hin
    rw [h.connected] at hk
    rw [h.joins, h.revoked]
    rcases (h.rooms k e hk).mp hin with hold | ⟨rfl, rfl⟩
    · obtain ⟨t, hjoin, hlive⟩ := hv k e hk hold
      exact ⟨t, List.mem_append_left _ hjoin, hlive⟩
    · rcases hholds hk with ⟨t, ht, hlive⟩ | ⟨t, hjoin, hlive⟩
      · rw [htoken.2.1] at ht
        cases ht
        exact ⟨token, List.mem_append_right _ (List.mem_singleton.mpr rfl), hlive⟩
      · exact ⟨t, List.mem_append_left _ hjoin, hlive⟩

end Dcvp.Proofs
