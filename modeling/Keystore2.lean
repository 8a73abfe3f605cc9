import Keystore2.Types
import Keystore2.Globals
import Keystore2.Database
import Keystore2.World
import Keystore2.Store
import Keystore2.Upgrade
import Keystore2.RawDevice
import Keystore2.Operation
import Keystore2.KeyCreation
import Keystore2.Service
import Keystore2.Crypto
import Keystore2.Selinux
import Keystore2.Connection
