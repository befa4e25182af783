/-
# Trusted certificates

The certificates that a client trusts are those in the files of one directory.  Files that are
spoilt, certificates that cannot be read and directories inside are passed over; without the
directory none is trusted.
-/
import UrlTransfer.File.Tree
import UrlTransfer.Tls.TrustAnchor

namespace UrlTransfer

namespace Tls

/-- The anchors in the files of a directory. -/
def loadRoots (directory : Bytes) (files : Tree) : Except IoError (List TrustAnchor) :=
  match files.readDirectory directory with
  | .ok contents => .ok (contents.flatMap TrustAnchor.ofFile)
  | .error fault => if fault.kind = .notFound then .ok [] else .error fault

end Tls

end UrlTransfer
