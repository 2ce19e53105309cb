import RailwayBooking.Concurrency.Soundness
import RailwayBooking.Concurrency.Reachable
import RailwayBooking.Concurrency.Rules
import RailwayBooking.Concurrency.Schedule
import RailwayBooking.Redis.Idempotency
import RailwayBooking.Redis.SeatLock
import RailwayBooking.Concurrency.History
import RailwayBooking.BookingService.Environment
import RailwayBooking.BookingService.Operations
import RailwayBooking.BookingService.Saga
import RailwayBooking.BookingService.Tables
import RailwayBooking.BookingService.Commits
import RailwayBooking.BookingService.Effects
import RailwayBooking.BookingService.Facts
import RailwayBooking.BookingService.Specs
import RailwayBooking.BookingService.TransitionSound
import RailwayBooking.BookingService.CreateSound
import RailwayBooking.BookingService.OperationsSound
import RailwayBooking.Kafka.DlqSound
import RailwayBooking.BookingService.SagaSound
import RailwayBooking.BookingService.Acknowledgement
import RailwayBooking.BookingService.Lifecycle
import RailwayBooking.BookingService.Linearizability
import RailwayBooking.InventoryService.Repository
import RailwayBooking.InventoryService.Environment
import RailwayBooking.InventoryService.SeatAllocation
import RailwayBooking.InventoryService.Tables
import RailwayBooking.InventoryService.Commits
import RailwayBooking.InventoryService.Facts
import RailwayBooking.InventoryService.HoldSound
import RailwayBooking.InventoryService.LifecycleSound
import RailwayBooking.InventoryService.NoDoubleBooking
import RailwayBooking.InventoryService.HoldReplies
import RailwayBooking.Concurrency.Transition
import RailwayBooking.Kafka.Outbox
import RailwayBooking.Kafka.OutboxWorker
import RailwayBooking.Kafka.OutboxDelivery
import RailwayBooking.Kafka.OutboxFencing
import RailwayBooking.Kafka.OutboxOrder
import RailwayBooking.BookingService.SagaLogs
import RailwayBooking.PaymentService.Repository
import RailwayBooking.Money
import RailwayBooking.PaymentService.Environment
import RailwayBooking.PaymentService.Operations
import RailwayBooking.PaymentService.Commits
import RailwayBooking.PaymentService.Facts
import RailwayBooking.PaymentService.Announcements
import RailwayBooking.PaymentService.Exclusion
import RailwayBooking.Concurrency.Joint
import RailwayBooking.PaymentService.ActiveOrders
import RailwayBooking.Integration.OrderPrices
import RailwayBooking.Integration.PaidTickets
import RailwayBooking.BookingService.Restarts
import RailwayBooking.BookingService.Confirmation
import RailwayBooking.Integration.CapturedPayments
import RailwayBooking.BookingService.Requests
import RailwayBooking.Integration.Seats
import RailwayBooking.Integration.ReleasedSeats
import RailwayBooking.BookingService.SeatRows
import RailwayBooking.Integration.OwnedSeats
import RailwayBooking.Integration.ConfirmedSeats
import RailwayBooking.ScheduleService.Operations
import RailwayBooking.ScheduleService.Commits
import RailwayBooking.ScheduleService.Facts
import RailwayBooking.ScheduleService.Sound
import RailwayBooking.ScheduleService.Attachment
import RailwayBooking.Resilience.CircuitBreaker
import RailwayBooking.Resilience.HalfOpenTrials
import RailwayBooking.BookingService.SeatLocks
import RailwayBooking.Redis.IdempotencyLeases
import RailwayBooking.Concurrency.Remote
import RailwayBooking.InventoryService.ExactHolds
import RailwayBooking.SearchService.Projection
import RailwayBooking.SearchService.ScheduleProjection
import RailwayBooking.SearchService.ScheduleConvergence
import RailwayBooking.SearchService.StationConvergence
import RailwayBooking.AdminService.Operations
import RailwayBooking.AdminService.Commits
import RailwayBooking.AdminService.Facts
import RailwayBooking.AdminService.Sound
import RailwayBooking.AdminService.ValidSchedules
import RailwayBooking.ScheduleService.Announcements
import RailwayBooking.AdminService.ScheduleEvents
import RailwayBooking.Integration.ScheduleAgreement
import RailwayBooking.Redis.SetKeys
import RailwayBooking.UserService.Operations
import RailwayBooking.Concurrency.Stamped
import RailwayBooking.Concurrency.Steady
import RailwayBooking.UserService.RevokedSessions
import RailwayBooking.Concurrency.Steps
import RailwayBooking.UserService.SessionIndex
import RailwayBooking.InventoryService.Settlements
import RailwayBooking.Redis.SeatScripts
import RailwayBooking.InventoryService.SeatAvailability
import RailwayBooking.InventoryService.PreCheck
import RailwayBooking.Integration.TravelledSegments
import RailwayBooking.InventoryService.HistoryChain
import RailwayBooking.ScheduleService.Versions
import RailwayBooking.BookingService.SeatHolds
import RailwayBooking.BookingService.Idempotency
import RailwayBooking.Concurrency.Noninterference
import RailwayBooking.BookingService.Footprint
import RailwayBooking.BookingService.Privacy
import RailwayBooking.Numeric.Refill
import RailwayBooking.Resilience.TokenBucket
import RailwayBooking.PaymentService.Webhooks
import RailwayBooking.Resilience.ClosingEvidence
import RailwayBooking.BookingService.StoredOrders
import RailwayBooking.UserService.SingleUse
import RailwayBooking.Concurrency.Extension
import RailwayBooking.Redis.Counters
import RailwayBooking.UserService.OtpService
import RailwayBooking.UserService.BoundedGuesses
import RailwayBooking.Concurrency.Sole
import RailwayBooking.UserService.ResetCalls
import RailwayBooking.UserService.ResetAuthorisation
import RailwayBooking.UserService.RegisterCalls
import RailwayBooking.UserService.OwnRegistration
import RailwayBooking.BookingService.FilledSeats
import RailwayBooking.Integration.EnrichedSeats
import RailwayBooking.Resilience.Thresholds
import RailwayBooking.ScheduleService.Layouts
import RailwayBooking.Integration.ServedJourneys
import RailwayBooking.CoachService.Operations
import RailwayBooking.CoachService.Commits
import RailwayBooking.CoachService.Facts
import RailwayBooking.CoachService.Sound
import RailwayBooking.CoachService.SeatLayouts
import RailwayBooking.Integration.AdvertisedCapacity
import RailwayBooking.Catalogue.EventLog
import RailwayBooking.Catalogue.Operations
import RailwayBooking.Catalogue.Commits
import RailwayBooking.Catalogue.Facts
import RailwayBooking.Catalogue.Sound
import RailwayBooking.Catalogue.Stations
import RailwayBooking.Catalogue.Trains
import RailwayBooking.Integration.StationAgreement
import RailwayBooking.ApiGateway.Auth
import RailwayBooking.ApiGateway.Gateway
import RailwayBooking.ApiGateway.Identity
import RailwayBooking.ApiGateway.Isolation
import RailwayBooking.ApiGateway.RateLimits
import RailwayBooking.InventoryService.ReservationBook
import RailwayBooking.UserService.CompletedLogouts
