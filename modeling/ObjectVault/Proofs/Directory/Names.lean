import ObjectVault.Backend.Directory
import ObjectVault.Proofs.FileTree.Walks
import ObjectVault.Proofs.Text.Identities
import ObjectVault.Proofs.Text.Utf8

/-!
# Names in a store

The names that a store gives to its directory and to the files in it. They stand for themselves in a
path (`plain_objectName`, `plain_serviceName`), are short, and tell objects apart
(`objectName_injective`).
-/

namespace ObjectVault

namespace Utf8

/-- Three or more ordinary characters make a plain name. -/
theorem plain_encode {chars : List Char} (ordinary : ∀ c ∈ chars, Ordinary c)
    (long : 2 < chars.length) : Path.Plain (encode chars) := by
  have length := length_encode ordinary
  refine ⟨?_, ?_, ?_, ?_, ?_⟩
  · intro empty
    simp only [empty, List.length_nil] at length
    omega
  · intro member
    obtain ⟨c, among, here⟩ := List.mem_flatMap.mp member
    exact (ordinary c among).2.1 here
  · intro member
    obtain ⟨c, among, here⟩ := List.mem_flatMap.mp member
    exact (ordinary c among).2.2 here
  · intro same
    have short : Path.here.length = 1 := rfl
    rw [same, short] at length
    omega
  · intro same
    have short : Path.above.length = 2 := rfl
    rw [same, short] at length
    omega

end Utf8

/-! ### The names -/

namespace DirectoryStore

def serviceName (store : DirectoryStore) : Name := Utf8.ofText store.service.text

theorem serviceDirectory_eq (store : DirectoryStore) :
    store.serviceDirectory = Path.child store.root store.serviceName := rfl

theorem serviceName_eq (store : DirectoryStore) :
    store.serviceName
      = Utf8.encode (ServiceId.grouped ServiceId.groupLengths
          (Bytes.hexDigits store.service.bytes)) := by
  rw [serviceName, Utf8.ofText, ServiceId.text, String.toList_ofList]

theorem ordinary_serviceName (store : DirectoryStore) :
    ∀ c ∈ ServiceId.grouped ServiceId.groupLengths (Bytes.hexDigits store.service.bytes),
      Utf8.Ordinary c :=
  ServiceId.ordinary_grouped (ordinary_hexDigits _) _

theorem length_serviceName (store : DirectoryStore) : store.serviceName.length = 36 := by
  rw [serviceName_eq, Utf8.length_encode store.ordinary_serviceName]
  exact ServiceId.length_grouped store.service.length_digits

/-- The name of a service's directory stands for itself in a path. -/
theorem plain_serviceName (store : DirectoryStore) : Path.Plain store.serviceName := by
  have length := store.length_serviceName
  rw [serviceName_eq, Utf8.length_encode store.ordinary_serviceName] at length
  rw [serviceName_eq]
  exact Utf8.plain_encode store.ordinary_serviceName (by omega)

/-- Different services have different directories. -/
theorem serviceName_injective {first second : DirectoryStore}
    (same : first.serviceName = second.serviceName) : first.service = second.service :=
  ServiceId.text_injective (Utf8.ofText_injective same)

def extension : List Char := ".obj".toList

theorem objectName_eq (id : Bytes) :
    objectName id = Utf8.encode (Bytes.hexDigits id ++ extension) := by
  rw [objectName, Utf8.ofText, Bytes.hex, String.toList_append, String.toList_ofList, extension]

theorem ordinary_objectName (id : Bytes) :
    ∀ c ∈ Bytes.hexDigits id ++ extension, Utf8.Ordinary c := by
  have ending : (extension.all fun c => decide (Utf8.Ordinary c)) = true := by decide
  intro c member
  rcases List.mem_append.mp member with digit | last
  · exact ordinary_hexDigits id c digit
  · exact of_decide_eq_true (List.all_eq_true.mp ending c last)

/-- The file of an object has a name of two digits for each byte of its id, and the extension. -/
theorem length_objectName (id : Bytes) : (objectName id).length = 2 * id.length + 4 := by
  rw [objectName_eq, Utf8.length_encode (ordinary_objectName id), List.length_append,
    Bytes.length_hexDigits]
  rfl

/-- The name of an object's file stands for itself in a path, whatever the id. -/
theorem plain_objectName (id : Bytes) : Path.Plain (objectName id) := by
  rw [objectName_eq]
  apply Utf8.plain_encode (ordinary_objectName id)
  rw [List.length_append, Bytes.length_hexDigits]
  have length : extension.length = 4 := rfl
  omega

/-- Different objects are in different files. -/
theorem objectName_injective {first second : Bytes} (same : objectName first = objectName second) :
    first = second := by
  have texts := Utf8.ofText_injective same
  have digits := congrArg String.toList texts
  simp only [String.toList_append, Bytes.hex, String.toList_ofList] at digits
  exact Bytes.hexDigits_injective (List.append_cancel_right digits)

/-- No object is in a file with the name of a temporary one. -/
theorem objectName_ne_freshName (id : Bytes) (tree : FileTree) : objectName id ≠ tree.freshName := by
  have dot : 0x2E ∈ objectName id := by
    rw [objectName_eq, Utf8.encode_append]
    exact List.mem_append_right _ (by decide)
  intro same
  rw [same, FileTree.freshName] at dot
  exact absurd (List.eq_of_mem_replicate dot) (by decide)

/-- The file of an object is never in the place of a temporary one. -/
theorem objectName_cons_ne (id : Bytes) (tree : FileTree) (dir : Place) :
    objectName id :: dir ≠ tree.freshName :: dir :=
  fun same => objectName_ne_freshName id tree (List.cons.inj same).1

/-- The place of the file of an object, in a store at the given place. -/
def objectPlace (store : DirectoryStore) (base : Place) (id : Bytes) : Place :=
  objectName id :: store.serviceName :: base

theorem objectPlace_injective {store : DirectoryStore} {base : Place} {first second : Bytes}
    (same : store.objectPlace base first = store.objectPlace base second) : first = second :=
  objectName_injective (List.cons.inj same).1

theorem objectPlace_ne_service (store : DirectoryStore) (base : Place) (id : Bytes) :
    store.objectPlace base id ≠ store.serviceName :: base := by
  intro same
  have lengths := congrArg List.length same
  simp [objectPlace] at lengths

end DirectoryStore

end ObjectVault
