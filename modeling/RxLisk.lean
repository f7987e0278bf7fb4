import RxLisk.Library.LittleEndian
import RxLisk.Library.Run
import RxLisk.Foundation.Text
import RxLisk.Foundation.Double
import RxLisk.Foundation.Json
import RxLisk.Crypto.Crypto
import RxLisk.Crypto.MnemonicPassphrase
import RxLisk.Crypto.Passphrase
import RxLisk.Transactions.Amount
import RxLisk.Transactions.HexFields
import RxLisk.Transactions.History
import RxLisk.Transactions.Posting
import RxLisk.Networking.LiskNetwork
import RxLisk.CEd25519.AddScalar
import RxLisk.CEd25519.KeyExchange
import RxLisk.Crypto.KeyOperations
import RxLisk.Transactions.Verification
