import Restic.Utf8
import Restic.EqualFold
import Restic.ExtendedAttributes
import Restic.EAStore
import Restic.FileAttributes
import Restic.GenericAttributes
import Restic.Timestamps
import Restic.FilteredSnapshots
