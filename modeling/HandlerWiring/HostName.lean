/-!
# Names of the host framework

The types of the dependency injection framework that generated code refers to and that an
extension point has to use, and the names of its two parameters.
-/

namespace HandlerWiring.HostName

/-- The collection that registrations are added to. -/
def serviceCollection : String := "Microsoft.Extensions.DependencyInjection.IServiceCollection"

/-- The enumeration of lifetimes. -/
def serviceLifetime : String := "Microsoft.Extensions.DependencyInjection.ServiceLifetime"

/-- The record of one registration. -/
def serviceDescriptor : String := "Microsoft.Extensions.DependencyInjection.ServiceDescriptor"

/-- The lifetime of a registration whose caller gives none. -/
def defaultLifetime : String :=
  "Microsoft.Extensions.DependencyInjection.ServiceLifetime.Transient"

/-- The attribute that marks an extension point. -/
def markerAttribute : String := "ServiceInjectionPointAttribute"

/-- The name of the receiver parameter. -/
def servicesParameter : String := "services"

/-- The name of the lifetime parameter. -/
def lifetimeParameter : String := "defaultLifetime"

end HandlerWiring.HostName
