import GuardianStake.Found.Loop
import GuardianStake.Found.Greedy
import GuardianStake.Found.Transition
import GuardianStake.Found.WalletLedger
import GuardianStake.Found.Repeats
import GuardianStake.Found.Share
import GuardianStake.Found.Gaps
import GuardianStake.Found.SignificantBits
import GuardianStake.Found.Rounding
import GuardianStake.Found.RelativeError
import GuardianStake.Found.Pages
import GuardianStake.Found.Json
import GuardianStake.Found.ExpiringMap
import GuardianStake.Found.CountedLoop
import GuardianStake.Found.NormalForm
import GuardianStake.Found.Abi
import GuardianStake.Sdk.Errors
import GuardianStake.Sdk.Js
import GuardianStake.Sdk.Doubles
import GuardianStake.Sdk.DoubleArithmetic
import GuardianStake.Sdk.DoubleError
import GuardianStake.Sdk.JsonBig
import GuardianStake.Sdk.Cache
import GuardianStake.Sdk.InMemoryCache
import GuardianStake.Sdk.Transaction
import GuardianStake.Sdk.Signing
import GuardianStake.Sdk.IpLiteral
import GuardianStake.Sdk.ConfigValidation
import GuardianStake.Sdk.HostNames
import GuardianStake.Cardano.Types
import GuardianStake.Cardano.Validations
import GuardianStake.Cardano.CoinSelection
import GuardianStake.Cardano.PagedSelection
import GuardianStake.Cardano.LiveReads
import GuardianStake.Cardano.TxHelpers
import GuardianStake.Cardano.SignService
import GuardianStake.Cardano.StakeAddress
import GuardianStake.Cardano.ChangeOutput
import GuardianStake.Cardano.SigningPaths
import GuardianStake.Cardano.SerializedSize
import GuardianStake.Cardano.FeeService
import GuardianStake.Cardano.QuotedFee
import GuardianStake.Cardano.Compile
import GuardianStake.Cardano.Ledger
import GuardianStake.Cardano.LedgerRuns
import GuardianStake.Solana.Types
import GuardianStake.Solana.RpcClient
import GuardianStake.Solana.Activation
import GuardianStake.Solana.EffectiveStake
import GuardianStake.Solana.DoubleAmounts
import GuardianStake.Solana.SeedScan
import GuardianStake.Solana.Discovery
import GuardianStake.Solana.PlainScan
import GuardianStake.Solana.StakeAccount
import GuardianStake.Solana.LoadPositions
import GuardianStake.Solana.TxBuilder
import GuardianStake.Solana.Claimable
import GuardianStake.Solana.StakeGates
import GuardianStake.Solana.FundingGate
import GuardianStake.Solana.PositionList
import GuardianStake.Solana.FullListing
import GuardianStake.Solana.StakingService
import GuardianStake.Solana.BalanceService
import GuardianStake.Solana.SharedCache
import GuardianStake.Solana.SignService
import GuardianStake.Solana.SigningPaths
import GuardianStake.Solana.FeeService
import GuardianStake.Tron.Types
import GuardianStake.Tron.StakingService
import GuardianStake.Tron.FrozenChunks
import GuardianStake.Tron.VoteScaling
import GuardianStake.Tron.BalanceService
import GuardianStake.Tron.TxBuilder
import GuardianStake.Tron.ExactAmounts
import GuardianStake.Tron.FeeService
import GuardianStake.Tron.Voting
import GuardianStake.Tron.SingleFlight
import GuardianStake.Tron.StakingCaches
import GuardianStake.Tron.MapWithConcurrency
import GuardianStake.Tron.Pagination
import GuardianStake.Tron.RpcClient
import GuardianStake.Tron.AccountReads
import GuardianStake.Tron.SignService
import GuardianStake.Tron.SigningPaths
import GuardianStake.Tron.Broadcast
import GuardianStake.Bsc.Types
import GuardianStake.Bsc.SignService
import GuardianStake.Bsc.FeeService
import GuardianStake.Bsc.StakingService
import GuardianStake.Bsc.ClaimQueue
import GuardianStake.Bsc.Validators
import GuardianStake.Bsc.CallEncoding
import GuardianStake.Bsc.StakingRpcClient
import GuardianStake.GuardianSdk
