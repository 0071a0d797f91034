import ObjectVault.Digest.Md5
import ObjectVault.ObjectKey

/-!
# Keys in a namespace

A device or a thing keeps its objects under keys of the form `namespace/name`. Where some key of a
group reaches the length limit, the start of the namespace's digest takes the namespace's place in
every key of the group, so that one group never mixes the two spellings.

The digest is a parameter of the `With` forms, since nothing here depends on which one it is.
-/

namespace ObjectVault.ObjectKey

/-- How many hexadecimal digits of the digest stand for a long namespace. -/
def hashedNamespaceLength : Nat := 20

/-- Whether some key of the group reaches the length limit. -/
def reachesLimit (space : String) (names : List String) : Bool :=
  names.any fun name => maxKeyLength ≤ Utf8.length space + 1 + Utf8.length name

/-- The start of a namespace's digest, in hexadecimal. -/
def hashedNamespace (digest : Bytes → Digest) (space : String) : String :=
  String.ofList ((Bytes.hexDigits (digest (Utf8.ofText space)).1).take hashedNamespaceLength)

/-- What stands before the slash in every key of the group. -/
def groupStem (digest : Bytes → Digest) (space : String) (names : List String) : String :=
  if reachesLimit space names then hashedNamespace digest space else space

/-- The keys of a group of names, or the error of the first name that yields none. -/
def namespacedAllWith (digest : Bytes → Digest) (space : String) (names : List String) :
    Except ValueError (List ObjectKey) :=
  names.mapM fun name => ofText (groupStem digest space names ++ "/" ++ name)

/-- The key of one name: the key of the group that holds nothing else. -/
def namespacedWith (digest : Bytes → Digest) (space name : String) : Except ValueError ObjectKey := do
  let keys ← namespacedAllWith digest space [name]
  match keys.getLast? with
  | some key => return key
  | none => throw .emptyKey

def namespacedAll (space : String) (names : List String) : Except ValueError (List ObjectKey) :=
  namespacedAllWith Md5.digest space names

def namespaced (space name : String) : Except ValueError ObjectKey :=
  namespacedWith Md5.digest space name

end ObjectVault.ObjectKey
