/-
This file models the filesystem check of the daemon's request handler: a caller that is not root
must be able to read the config file that its request names.

The check does not follow a link in the last position, while the file that is loaded is found by
following all links. So the bits that are checked are those of the link, which grant read access to
everybody. The main result says when the check can be relied on, whatever the permissions of the
files are: when the link itself refuses the caller.
-/

import Kepler.Acl
import Kepler.Library.FileTree

namespace Kepler

variable {Content : Type}

def ownerRead : UInt32 := 0o400

def groupRead : UInt32 := 0o040

def otherRead : UInt32 := 0o004

/-- The part of `check_filesystem_read_access` after the lookup of the metadata. -/
def checkReadBits (accounts : Accounts) (path : String) (uid gid : UInt32)
    (metadata : Metadata) : Except String Unit :=
  if uid = metadata.uid then
    if metadata.mode &&& ownerRead ≠ 0 then .ok ()
    else .error s!"Permission denied: owner lacks read access to '{path}'"
  else match getAllGids accounts uid gid with
    | .error e => .error s!"Failed to check filesystem access for '{path}': {e}"
    | .ok allGids =>
      if metadata.gid ∈ allGids then
        if metadata.mode &&& groupRead ≠ 0 then .ok ()
        else .error s!"Permission denied: group lacks read access to '{path}'"
      else if metadata.mode &&& otherRead ≠ 0 then .ok ()
      else .error s!"Permission denied: no read access to config file '{path}'"

def checkFilesystemReadAccess (accounts : Accounts) (tree : FileTree Content) (path : String)
    (uid gid : UInt32) : Except String Unit :=
  match tree.symlinkMetadata path with
  | .error e => .error ("Cannot access config file '" ++ path ++ "': " ++ e.text)
  | .ok metadata => checkReadBits accounts path uid gid metadata

/-- The filesystem gate of `handle_request`. Root is not checked. -/
def filesystemGate (accounts : Accounts) (tree : FileTree Content) (auth : AuthContext)
    (request : Request) : Except Response Unit :=
  match auth, request.extractConfigPath with
  | .group uid gid, some rawPath | .token uid gid _, some rawPath =>
    (checkFilesystemReadAccess accounts tree rawPath uid gid).mapError .permissionDenied
  | .group _ _, none | .token _ _ _, none | .root _ _, _ => .ok ()

/-! ### What the check is for -/

/-- The groups of a caller: its primary group alone when they cannot be looked up. -/
def callerGids (accounts : Accounts) (uid gid : UInt32) : List UInt32 :=
  match getAllGids accounts uid gid with
  | .ok gids => gids
  | .error _ => [gid]

/-- The owner's bit decides for the owner, the group's bit for the other members of the group, and
the last bit for everybody else. -/
def ReadGranted (metadata : Metadata) (uid : UInt32) (gids : List UInt32) : Prop :=
  if uid = metadata.uid then metadata.mode &&& ownerRead ≠ 0
  else if metadata.gid ∈ gids then metadata.mode &&& groupRead ≠ 0
  else metadata.mode &&& otherRead ≠ 0

instance (metadata : Metadata) (uid : UInt32) (gids : List UInt32) :
    Decidable (ReadGranted metadata uid gids) :=
  inferInstanceAs (Decidable (if uid = metadata.uid then metadata.mode &&& ownerRead ≠ 0
    else if metadata.gid ∈ gids then metadata.mode &&& groupRead ≠ 0
    else metadata.mode &&& otherRead ≠ 0))

/-- The file that the path canonicalizes to, if there is one, grants the caller read access. -/
def TargetReadable (accounts : Accounts) (tree : FileTree Content) (path : String)
    (uid gid : UInt32) : Prop :=
  ∀ metadata, tree.targetMetadata path = .ok metadata →
    ReadGranted metadata uid (callerGids accounts uid gid)

theorem checkReadBits_eq_ok {accounts : Accounts} {path : String} {uid gid : UInt32}
    {metadata : Metadata} :
    checkReadBits accounts path uid gid metadata = .ok () ↔
      ReadGranted metadata uid (callerGids accounts uid gid) ∧
        (uid ≠ metadata.uid → ∃ gids, getAllGids accounts uid gid = .ok gids) := by
  unfold checkReadBits ReadGranted callerGids
  by_cases owner : uid = metadata.uid
  · rw [if_pos owner, if_pos owner]
    split_ifs with bit <;> simp [bit, owner]
  · rw [if_neg owner, if_neg owner]
    cases getAllGids accounts uid gid with
    | error e => simp [owner]
    | ok gids =>
      simp only [Except.ok.injEq, exists_eq', implies_true, and_true]
      split_ifs with member bit bit <;> simp [bit]

theorem checkFilesystemReadAccess_eq_ok {accounts : Accounts} {tree : FileTree Content}
    {path : String} {uid gid : UInt32} :
    checkFilesystemReadAccess accounts tree path uid gid = .ok () ↔
      ∃ metadata, tree.symlinkMetadata path = .ok metadata ∧
        checkReadBits accounts path uid gid metadata = .ok () := by
  unfold checkFilesystemReadAccess
  cases tree.symlinkMetadata path <;> simp

/-- A link at the end of the path that leads to a file does not let the caller through: its own bits
refuse the caller, or the caller does not own it and has no groups that can be looked up. -/
def LinkRefuses (accounts : Accounts) (tree : FileTree Content) (path : String)
    (uid gid : UInt32) : Prop :=
  tree.EndsInLink path → ∀ link file, tree.symlinkMetadata path = .ok link →
    tree.targetMetadata path = .ok file →
    ReadGranted link uid (callerGids accounts uid gid) →
    uid ≠ link.uid ∧ ∀ gids, getAllGids accounts uid gid ≠ .ok gids

theorem linkRefuses_cleared (accounts : Accounts) (tree : FileTree Content) (path : String)
    (uid gid : UInt32) :
    LinkRefuses accounts tree.cleared path uid gid ↔ LinkRefuses accounts tree path uid gid := by
  unfold LinkRefuses
  rw [tree.endsInLink_cleared]
  refine imp_congr_right fun ends => ?_
  rw [tree.symlinkMetadata_cleared ends, tree.targetMetadata_cleared]
  cases tree.targetMetadata path <;> simp [Except.map]

theorem targetReadable_of_check {accounts : Accounts} {tree : FileTree Content} {path : String}
    {uid gid : UInt32} (refuses : LinkRefuses accounts tree path uid gid)
    (passed : checkFilesystemReadAccess accounts tree path uid gid = .ok ()) :
    TargetReadable accounts tree path uid gid := by
  obtain ⟨metadata, found, passed⟩ := checkFilesystemReadAccess_eq_ok.mp passed
  obtain ⟨granted, known⟩ := checkReadBits_eq_ok.mp passed
  intro target targetFound
  by_cases ends : tree.EndsInLink path
  · obtain ⟨stranger, unknown⟩ := refuses ends metadata target found targetFound granted
    obtain ⟨gids, looked⟩ := known stranger
    exact absurd looked (unknown gids)
  · rw [tree.targetMetadata_of_not_endsInLink path metadata ends found] at targetFound
    cases targetFound
    exact granted

/-- The check guarantees that the file the path leads to grants the caller read access, in this tree
and in every other with the same names and links, exactly when the path does not end in a link that
lets the caller through. -/
theorem checkFilesystemReadAccess_sound_iff (accounts : Accounts) (tree : FileTree Content)
    (path : String) (uid gid : UInt32) :
    (∀ other, tree.SameLinks other →
        checkFilesystemReadAccess accounts other path uid gid = .ok () →
        TargetReadable accounts other path uid gid) ↔
      LinkRefuses accounts tree path uid gid := by
  constructor
  · intro sound ends link file linkFound fileFound granted
    -- the tree whose files and directories grant nothing has the same link
    have target : tree.cleared.targetMetadata path = .ok ⟨0, 0, 0⟩ := by
      rw [tree.targetMetadata_cleared, fileFound]
      rfl
    have refused : checkFilesystemReadAccess accounts tree.cleared path uid gid ≠ .ok () := by
      intro passed
      have readable := sound _ tree.cleared_cleared.symm passed _ target
      simp [ReadGranted] at readable
    rw [ne_eq, checkFilesystemReadAccess_eq_ok, tree.symlinkMetadata_cleared ends] at refused
    by_contra through
    refine refused ⟨link, linkFound, checkReadBits_eq_ok.mpr ⟨granted, fun stranger => ?_⟩⟩
    by_contra unknown
    exact through ⟨stranger, fun gids looked => unknown ⟨gids, looked⟩⟩
  · intro refuses other same passed
    refine targetReadable_of_check ?_ passed
    rw [← linkRefuses_cleared, ← show tree.cleared = other.cleared from same,
      linkRefuses_cleared]
    exact refuses

/-! ### A link to a file of root -/

/-- A file that only root can read, and a link to it in the home of a user. -/
def linkedSecretTree : FileTree Unit :=
  .fromEntries [
    ([], .directory { mode := 0o755, uid := 0, gid := 0 }),
    (["root"], .directory { mode := 0o700, uid := 0, gid := 0 }),
    (["root", "kepler.yaml"], .file { mode := 0o600, uid := 0, gid := 0 } ()),
    (["home"], .directory { mode := 0o755, uid := 0, gid := 0 }),
    (["home", "alice"], .directory { mode := 0o755, uid := 1000, gid := 1000 }),
    (["home", "alice", "link.yaml"],
      .symlink { mode := 0o777, uid := 1000, gid := 1000 } "/root/kepler.yaml")]

/-- The user passes through the link, and the file behind it refuses the user. -/
theorem linkedSecret_passes_unreadable :
    checkFilesystemReadAccess (.fromFiles [] [] 65536) linkedSecretTree
        "/home/alice/link.yaml" 1000 1000 = .ok () ∧
      linkedSecretTree.canonicalize "/home/alice/link.yaml" = .ok "/root/kepler.yaml" ∧
      ¬ TargetReadable (.fromFiles [] [] 65536) linkedSecretTree "/home/alice/link.yaml"
        1000 1000 := by
  have behind : linkedSecretTree.targetMetadata "/home/alice/link.yaml" =
      .ok { mode := 0o600, uid := 0, gid := 0 } := by decide +kernel
  refine ⟨by decide +kernel, by decide +kernel, fun readable => ?_⟩
  exact absurd (readable _ behind) (by decide)

end Kepler
