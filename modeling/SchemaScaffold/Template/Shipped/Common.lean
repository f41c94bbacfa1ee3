namespace SchemaScaffold.Template.Shipped.Common

def application : List String := [
  "package ⟦⟦ packageName ⟧⟧;",
  "",
  "import org.springframework.boot.SpringApplication;",
  "import org.springframework.boot.autoconfigure.SpringBootApplication;",
  "⟦%- if config.useCache %⟧",
  "import org.springframework.cache.annotation.EnableCaching;",
  "⟦%- endif %⟧",
  "",
  "⟦% if config.useCache %⟧@EnableCaching",
  "⟦% endif -%⟧",
  "@SpringBootApplication",
  "public class ⟦⟦ className ⟧⟧Application ⟦",
  "",
  "    public static void main(String[] args) ⟦",
  "        SpringApplication.run(⟦⟦ className ⟧⟧Application.class, args);",
  "    ⟧",
  "⟧",
  ""]

def settings : List String := [
  "spring.application.name=⟦⟦ projectName ⟧⟧",
  "server.port=8080",
  "",
  "⟦% if config.databaseType == \"postgresql\" -%⟧",
  "spring.datasource.url=jdbc:postgresql://localhost:5432/⟦⟦ projectName | replace(\"-\", \"_\") ⟧⟧",
  "spring.datasource.username=postgres",
  "spring.datasource.password=postgres",
  "spring.datasource.driver-class-name=org.postgresql.Driver",
  "⟦%- else -%⟧",
  "spring.datasource.url=jdbc:mysql://localhost:3306/⟦⟦ projectName | replace(\"-\", \"_\") ⟧⟧?useUnicode=true&characterEncoding=utf8&serverTimezone=UTC",
  "spring.datasource.username=root",
  "spring.datasource.password=root",
  "spring.datasource.driver-class-name=com.mysql.cj.jdbc.Driver",
  "⟦%- endif %⟧",
  "⟦% if config.ormFramework == \"jpa\" %⟧",
  "spring.jpa.hibernate.ddl-auto=none",
  "spring.jpa.open-in-view=false",
  "⟦%- elif config.ormFramework == \"mybatis-plus\" %⟧",
  "mybatis-plus.configuration.map-underscore-to-camel-case=true",
  "mybatis-plus.type-aliases-package=⟦⟦ packageName ⟧⟧.entity",
  "⟦%- else %⟧",
  "mybatis.mapper-locations=classpath:mapper/*.xml",
  "mybatis.type-aliases-package=⟦⟦ packageName ⟧⟧.entity",
  "mybatis.configuration.map-underscore-to-camel-case=true",
  "⟦%- endif %⟧",
  "⟦%- if config.useCache %⟧",
  "",
  "spring.data.redis.host=localhost",
  "spring.data.redis.port=6379",
  "⟦%- endif %⟧",
  "⟦%- if config.useApiDocs %⟧",
  "",
  "springdoc.swagger-ui.path=/swagger-ui.html",
  "⟦%- endif %⟧",
  ""]

def result : List String := [
  "package ⟦⟦ packageName ⟧⟧.common.api;",
  "",
  "public class Result<T> ⟦",
  "",
  "    private int code;",
  "    private String message;",
  "    private T data;",
  "",
  "    public static <T> Result<T> success(T data) ⟦",
  "        return of(ResultCode.SUCCESS, data);",
  "    ⟧",
  "",
  "    public static <T> Result<T> success() ⟦",
  "        return of(ResultCode.SUCCESS, null);",
  "    ⟧",
  "",
  "    public static <T> Result<T> failed(ResultCode code) ⟦",
  "        return of(code, null);",
  "    ⟧",
  "",
  "    public static <T> Result<T> failed(String message) ⟦",
  "        Result<T> result = of(ResultCode.FAILED, null);",
  "        result.message = message;",
  "        return result;",
  "    ⟧",
  "",
  "    private static <T> Result<T> of(ResultCode code, T data) ⟦",
  "        Result<T> result = new Result<>();",
  "        result.code = code.getCode();",
  "        result.message = code.getMessage();",
  "        result.data = data;",
  "        return result;",
  "    ⟧",
  "",
  "    public int getCode() ⟦",
  "        return code;",
  "    ⟧",
  "",
  "    public String getMessage() ⟦",
  "        return message;",
  "    ⟧",
  "",
  "    public T getData() ⟦",
  "        return data;",
  "    ⟧",
  "⟧",
  ""]

def resultCode : List String := [
  "package ⟦⟦ packageName ⟧⟧.common.api;",
  "",
  "public enum ResultCode ⟦",
  "    SUCCESS(200, \"success\"),",
  "    FAILED(500, \"failed\"),",
  "    VALIDATE_FAILED(400, \"validation failed\"),",
  "    NOT_FOUND(404, \"not found\");",
  "",
  "    private final int code;",
  "    private final String message;",
  "",
  "    ResultCode(int code, String message) ⟦",
  "        this.code = code;",
  "        this.message = message;",
  "    ⟧",
  "",
  "    public int getCode() ⟦",
  "        return code;",
  "    ⟧",
  "",
  "    public String getMessage() ⟦",
  "        return message;",
  "    ⟧",
  "⟧",
  ""]

def openApiConfig : List String := [
  "package ⟦⟦ packageName ⟧⟧.config;",
  "",
  "import io.swagger.v3.oas.models.OpenAPI;",
  "import io.swagger.v3.oas.models.info.Info;",
  "import org.springframework.context.annotation.Bean;",
  "import org.springframework.context.annotation.Configuration;",
  "",
  "@Configuration",
  "public class OpenApiConfig ⟦",
  "",
  "    @Bean",
  "    public OpenAPI ⟦⟦ className | lower ⟧⟧OpenApi() ⟦",
  "        return new OpenAPI().info(new Info()",
  "                .title(\"⟦⟦ projectName ⟧⟧\")",
  "                .version(\"0.0.1\"));",
  "    ⟧",
  "⟧",
  ""]

def service : List String := [
  "package ⟦⟦ packageName ⟧⟧.service;",
  "",
  "import java.util.List;",
  "",
  "import ⟦⟦ packageName ⟧⟧.entity.⟦⟦ className ⟧⟧;",
  "",
  "public interface I⟦⟦ className ⟧⟧Service ⟦",
  "",
  "    ⟦⟦ className ⟧⟧ getById(⟦⟦ primaryKeyType ⟧⟧ id);",
  "",
  "    List<⟦⟦ className ⟧⟧> list();",
  "⟦%- if config.usePagination %⟧",
  "",
  "    List<⟦⟦ className ⟧⟧> page(long page, long size);",
  "",
  "    long count();",
  "⟦%- endif %⟧",
  "",
  "    ⟦⟦ className ⟧⟧ create(⟦⟦ className ⟧⟧ entity);",
  "",
  "    boolean update(⟦⟦ className ⟧⟧ entity);",
  "",
  "    boolean delete(⟦⟦ primaryKeyType ⟧⟧ id);",
  "⟧",
  ""]

def controller : List String := [
  "package ⟦⟦ packageName ⟧⟧.controller;",
  "",
  "import java.util.List;",
  "",
  "import org.springframework.web.bind.annotation.*;",
  "⟦%- if config.useValidation %⟧",
  "import jakarta.validation.Valid;",
  "⟦%- endif %⟧",
  "⟦%- if config.useApiDocs %⟧",
  "import io.swagger.v3.oas.annotations.Operation;",
  "import io.swagger.v3.oas.annotations.tags.Tag;",
  "⟦%- endif %⟧",
  "",
  "import ⟦⟦ packageName ⟧⟧.common.api.Result;",
  "import ⟦⟦ packageName ⟧⟧.common.api.ResultCode;",
  "import ⟦⟦ packageName ⟧⟧.entity.⟦⟦ className ⟧⟧;",
  "import ⟦⟦ packageName ⟧⟧.service.I⟦⟦ className ⟧⟧Service;",
  "",
  "⟦% if config.useApiDocs %⟧@Tag(name = \"⟦⟦ tableComment or className ⟧⟧\")",
  "⟦% endif -%⟧",
  "@RestController",
  "@RequestMapping(\"/api/⟦⟦ classNameUncap ⟧⟧\")",
  "public class ⟦⟦ className ⟧⟧Controller ⟦",
  "",
  "    private final I⟦⟦ className ⟧⟧Service ⟦⟦ classNameUncap ⟧⟧Service;",
  "",
  "    public ⟦⟦ className ⟧⟧Controller(I⟦⟦ className ⟧⟧Service ⟦⟦ classNameUncap ⟧⟧Service) ⟦",
  "        this.⟦⟦ classNameUncap ⟧⟧Service = ⟦⟦ classNameUncap ⟧⟧Service;",
  "    ⟧",
  "⟦%- set valid = \"@Valid \" if config.useValidation else \"\" %⟧",
  "",
  "    ⟦% if config.useApiDocs %⟧@Operation(summary = \"Get by id\")",
  "    ⟦% endif %⟧@GetMapping(\"/⟦id⟧\")",
  "    public Result<⟦⟦ className ⟧⟧> get(@PathVariable ⟦⟦ primaryKeyType ⟧⟧ id) ⟦",
  "        ⟦⟦ className ⟧⟧ entity = ⟦⟦ classNameUncap ⟧⟧Service.getById(id);",
  "        return entity == null ? Result.failed(ResultCode.NOT_FOUND) : Result.success(entity);",
  "    ⟧",
  "⟦%- if config.usePagination %⟧",
  "",
  "    @GetMapping",
  "    public Result<List<⟦⟦ className ⟧⟧>> page(@RequestParam(defaultValue = \"1\") long page,",
  "                                      @RequestParam(defaultValue = \"10\") long size) ⟦",
  "        return Result.success(⟦⟦ classNameUncap ⟧⟧Service.page(page, size));",
  "    ⟧",
  "⟦%- else %⟧",
  "",
  "    @GetMapping",
  "    public Result<List<⟦⟦ className ⟧⟧>> list() ⟦",
  "        return Result.success(⟦⟦ classNameUncap ⟧⟧Service.list());",
  "    ⟧",
  "⟦%- endif %⟧",
  "",
  "    @PostMapping",
  "    public Result<⟦⟦ className ⟧⟧> create(@RequestBody ⟦⟦ valid ⟧⟧⟦⟦ className ⟧⟧ entity) ⟦",
  "        return Result.success(⟦⟦ classNameUncap ⟧⟧Service.create(entity));",
  "    ⟧",
  "",
  "    @PutMapping",
  "    public Result<Boolean> update(@RequestBody ⟦⟦ valid ⟧⟧⟦⟦ className ⟧⟧ entity) ⟦",
  "        return Result.success(⟦⟦ classNameUncap ⟧⟧Service.update(entity));",
  "    ⟧",
  "",
  "    @DeleteMapping(\"/⟦id⟧\")",
  "    public Result<Boolean> delete(@PathVariable ⟦⟦ primaryKeyType ⟧⟧ id) ⟦",
  "        return Result.success(⟦⟦ classNameUncap ⟧⟧Service.delete(id));",
  "    ⟧",
  "⟧",
  ""]

end SchemaScaffold.Template.Shipped.Common
