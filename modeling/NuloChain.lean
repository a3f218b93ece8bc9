import NuloChain.FrameDispatch
import NuloChain.FrameStorage
import NuloChain.FrameRun
import NuloChain.FrameSimulation
import NuloChain.FrameMeter
import NuloChain.FrameCurrency
import NuloChain.FrameBalances
import NuloChain.FrameReplay
import NuloChain.FrameAccount
import NuloChain.FrameSupply
import NuloChain.FrameBooks
import NuloChain.FrameAnswers
import NuloChain.FrameShared
import NuloChain.FrameRefinement
import NuloChain.FrameWeight
import NuloChain.SponsorshipModel
import NuloChain.SponsorshipSpecs
import NuloChain.SponsorshipRuns
import NuloChain.SponsorshipHolds
import NuloChain.SponsorshipLedger
import NuloChain.SponsorshipAuthority
import NuloChain.SponsorshipIndex
import NuloChain.SponsorshipProviders
import NuloChain.SponsorshipLeases
import NuloChain.SponsorshipEntries
import NuloChain.SponsorshipBatch
import NuloChain.SponsorshipBuckets
import NuloChain.SponsorshipUndo
import NuloChain.SponsorshipRates
import NuloChain.SponsorshipRefunds
import NuloChain.SponsorshipTally
import NuloChain.SponsorshipReferences
import NuloChain.SponsorshipSurvival
import NuloChain.SponsorshipMoves
import NuloChain.SponsorshipReplay
import NuloChain.SponsorshipWealth
import NuloChain.SponsorshipBooks
import NuloChain.SponsorshipPrompt
import NuloChain.SponsorshipAnswers
import NuloChain.SponsorshipGenesis
import NuloChain.SponsorshipBystander
import NuloChain.SponsorshipWeights
import NuloChain.PrepaidModel
import NuloChain.PrepaidBacking
import NuloChain.PrepaidCharging
import NuloChain.PrepaidSettlement
import NuloChain.PrepaidReplay
import NuloChain.PrepaidShares
import NuloChain.PrepaidConfined
import NuloChain.HftConversion
import NuloChain.HftModel
import NuloChain.HftSpecs
import NuloChain.HftRuns
import NuloChain.HftRegistry
import NuloChain.HftRefund
import NuloChain.HftCustody
import NuloChain.HftAuthority
import NuloChain.HftAddresses
import NuloChain.HftFailures
import NuloChain.HftSupply
import NuloChain.HftLink
import NuloChain.HftDelivery
import NuloChain.RuntimeModel
import NuloChain.RuntimeBacking
