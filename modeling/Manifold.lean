import Manifold.Guardian.Directory
import Manifold.Guardian.FeeHistory
import Manifold.Guardian.FeePolicy
import Manifold.Guardian.Frame
import Manifold.Guardian.Holder
import Manifold.Guardian.HookTheorems
import Manifold.Guardian.PayoutTheorems
import Manifold.Guardian.QuotingTheorems
import Manifold.Guardian.RestoreTheorems
import Manifold.Guardian.Seat.ChildTheorems
import Manifold.Guardian.Theorems
import Manifold.Liquidity.AdvertisementTheorems
import Manifold.Liquidity.Amounts
import Manifold.Liquidity.DepositTheorems
import Manifold.Liquidity.GenerationTheorems
import Manifold.Liquidity.OfficeTheorems
import Manifold.Liquidity.VerificationBudget
import Manifold.Liquidity.VerificationTheorems
import Manifold.Liquidity.WalletRows
import Manifold.FaClient.PurchaseTheorems
import Manifold.FaClient.Selection
import Manifold.LockedPayments.Denominations
import Manifold.Nostr.Query
import Manifold.Push.InvocationTheorems
import Manifold.Push.RegistrationTheorems
import Manifold.Push.Restart
import Manifold.Push.SourcePrefix
